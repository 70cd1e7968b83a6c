import TypeCensus.Proofs.Command.Grammar

/-!
# Bytes — a line read by the numbers of its bytes

A reader that keeps the number of a byte in place of the rest of the line has to cut the line at that byte, and there is
no cut inside a character.  `readByBytes` reads in that way, and fails as a whole where a cut does.  It never fails,
and reads what `read` reads.

* `cutAt?_eq_some_iff`: where a line can be cut.
* `Agrees`: a reader by bytes does what a reader of the rest does.
* `agrees_readRestAt`: so does each reader, from the first word of a line on.
* `readByBytes_eq`: every cut on the way falls between two characters.
-/

namespace TypeCensus.Command

open Report (Threshold)

/-! ## Cuts -/

/-- A text cut after so many bytes.  There is no cut inside a character, nor behind the end. -/
def cutAt? : List Char → Nat → Option (List Char × List Char)
  | cs, 0 => some ([], cs)
  | [], _ + 1 => none
  | c :: cs, n + 1 =>
    if c.utf8Size ≤ n + 1 then (cutAt? cs (n + 1 - c.utf8Size)).map fun p => (c :: p.1, p.2) else none

/-- The rest of a line from the byte at a place on. -/
def At (line : List Char) (pos : Nat) (rest : List Char) : Prop :=
  ∃ w, line = w ++ rest ∧ byteLength w = pos

theorem byteLength_eq_zero {cs : List Char} (h : byteLength cs = 0) : cs = [] := by
  cases cs with
  | nil => rfl
  | cons c cs =>
    have hpos := c.utf8Size_pos
    simp only [byteLength] at h
    omega

theorem cutAt?_eq_some_iff {cs w rest : List Char} {n : Nat} :
    cutAt? cs n = some (w, rest) ↔ cs = w ++ rest ∧ byteLength w = n := by
  induction cs, n using cutAt?.induct generalizing w rest with
  | case1 cs =>
    simp only [cutAt?, Option.some.injEq, Prod.mk.injEq]
    constructor
    · rintro ⟨rfl, rfl⟩
      exact ⟨rfl, rfl⟩
    · rintro ⟨rfl, hw⟩
      obtain rfl := byteLength_eq_zero hw
      exact ⟨rfl, rfl⟩
  | case2 n =>
    simp only [cutAt?, reduceCtorEq, false_iff, not_and]
    intro h
    obtain ⟨rfl, rfl⟩ := List.append_eq_nil_iff.mp h.symm
    simp [byteLength]
  | case3 c cs n hle ih =>
    rw [cutAt?, if_pos hle]
    constructor
    · intro h
      obtain ⟨⟨w', rest'⟩, hcut, heq⟩ := Option.map_eq_some_iff.mp h
      obtain ⟨rfl, rfl⟩ := Prod.mk.inj heq
      obtain ⟨rfl, hw⟩ := ih.mp hcut
      refine ⟨rfl, ?_⟩
      simp only [byteLength]
      omega
    · rintro ⟨h, hw⟩
      cases w with
      | nil => simp [byteLength] at hw
      | cons d w =>
        obtain ⟨rfl, rfl⟩ := List.cons.inj h
        simp only [byteLength] at hw
        rw [ih.mpr ⟨rfl, by omega⟩]
        rfl
  | case4 c cs n hlt =>
    rw [cutAt?, if_neg hlt]
    simp only [reduceCtorEq, false_iff, not_and]
    intro h hw
    cases w with
    | nil => simp [byteLength] at hw
    | cons d w =>
      obtain ⟨rfl, -⟩ := List.cons.inj h
      simp only [byteLength] at hw
      omega

theorem At.start (line : List Char) : At line 0 line := ⟨[], rfl, rfl⟩

theorem At.exists_cut {line rest : List Char} {pos : Nat} (h : At line pos rest) :
    ∃ w, cutAt? line pos = some (w, rest) := by
  obtain ⟨w, hline, hw⟩ := h
  exact ⟨w, cutAt?_eq_some_iff.mpr ⟨hline, hw⟩⟩

theorem At.append {line w rest : List Char} {pos : Nat} (h : At line pos (w ++ rest)) :
    At line (pos + byteLength w) rest := by
  obtain ⟨v, rfl, rfl⟩ := h
  exact ⟨v ++ w, by simp, byteLength_append v w⟩

theorem At.length_eq {line rest : List Char} {pos : Nat} (h : At line pos rest) :
    byteLength line - byteLength rest = pos := by
  obtain ⟨w, rfl, rfl⟩ := h
  rw [byteLength_append, Nat.add_sub_cancel]

/-! ## Reading -/

/-- What comes of reading by bytes: a refusal with its place, or a value; nothing where a cut fails. -/
abbrev Scan (α : Type) := ExceptT (Cause × Nat) Option α

/-- The longest run of a class from a byte on, and the byte behind it. -/
def runAt (p : Char → Bool) (line : List Char) (pos : Nat) : Option (List Char × Nat) :=
  (cutAt? line pos).bind fun (_, rest) =>
    (cutAt? rest (byteLength (rest.takeWhile p))).map fun (w, _) =>
      (w, pos + byteLength (rest.takeWhile p))

/-- Skips one or more separators. -/
def skipGapAt (line : List Char) (pos : Nat) : Scan Nat :=
  (runAt isGap line pos).map fun (w, next) =>
    if w = [] then .error (.expectedBlank, next) else .ok next

/-- Skips one word. -/
def skipKeywordAt (word : String) (line : List Char) (pos : Nat) : Scan Nat :=
  (runAt (fun c => !isGap c) line pos).map fun (w, next) =>
    if w = word.toList then .ok next else .error (.expectedKeyword word, pos)

/-- Reads a quoted text. -/
def readStringAt (line : List Char) (pos : Nat) : Scan (String × Nat) :=
  (cutAt? line pos).bind fun (_, rest) =>
    if rest.head? = some '"' then
      (runAt (· != '"') line (pos + 1)).bind fun (body, next) =>
        (cutAt? line next).map fun (_, rest) =>
          if rest.head? = some '"' then .ok (.ofList body, next + 1)
          else .error (.unterminatedString, pos)
    else some (.error (.expectedString, pos))

/-- Reads a threshold. -/
def readThresholdAt (line : List Char) (pos : Nat) : Scan (Threshold × Nat) :=
  (runAt Char.isDigit line pos).map fun (ds, next) =>
    if ds = [] then .error (.expectedInteger, next)
    else if decimalValue ds < UInt64.size then .ok (.ofNat (decimalValue ds), next)
    else .error (.outOfRange (.ofList ds), pos)

/-- Makes sure that the end is reached. -/
def finishedAt (c : Command) (line : List Char) (pos : Nat) : Scan Command :=
  if pos = byteLength line then some (.ok c)
  else (cutAt? line pos).map fun (_, rest) => .error (.trailingInput (.ofList rest), pos)

/-- Reads what follows the first word of a command. -/
def readRestAt (line : List Char) (word : String) (pos : Nat) : Scan Command :=
  if word = "help" || word = "h" then finishedAt .help line pos
  else if word = "exit" || word = "quit" || word = "q" then finishedAt .exit line pos
  else if word = "list" then finishedAt .list line pos
  else if word = "load" then do
    let pos ← skipGapAt line pos
    let (path, pos) ← readStringAt line pos
    finishedAt (.load path) line pos
  else if word = "mc" || word = "many-constructors" then do
    let pos ← skipGapAt line pos
    let pos ← skipKeywordAt "th" line pos
    let pos ← skipGapAt line pos
    let (threshold, pos) ← readThresholdAt line pos
    finishedAt (.manyConstructors threshold) line pos
  else if word = "" then some (.error (.expectedCommand, pos))
  else some (.error (.unknownCommand word, 0))

/-- Reads a command. -/
def readCharsAt (line : List Char) : Scan Command :=
  if line.isEmpty then some (.error (.emptyCommand, 0))
  else (runAt (fun c => !isGap c) line 0).bind fun (word, pos) => readRestAt line (.ofList word) pos

/-- Reads a line by the numbers of its bytes. -/
def readByBytes (line : String) : Option (Except Rejection Command) :=
  (readCharsAt line.toList).run.map fun r => r.mapError fun (cause, offset) => { line, cause, offset }

/-! ## Agreement -/

/-- A reader by bytes gives what a reader of the rest gives, or is refused for the same cause at the same place. -/
inductive Agrees (line : List Char) {α β : Type} (R : α → β → Prop) : Scan α → Except Refusal β → Prop
  | ok {a : α} {b : β} (h : R a b) : Agrees line R (some (.ok a)) (.ok b)
  | error {cause : Cause} {pos : Nat} {rest : List Char} (h : At line pos rest) :
      Agrees line R (some (.error (cause, pos))) (.error (cause, rest))

/-- A value, and the rest of the line behind it. -/
def ValueAt (line : List Char) {α : Type} (a : α × Nat) (b : α × List Char) : Prop :=
  a.1 = b.1 ∧ At line a.2 b.2

section Agreement

variable {line rest : List Char} {pos : Nat}

/-- Readers that agree are followed by readers that agree. -/
theorem Agrees.bind {α β α' β' : Type} {R : α → β → Prop} {S : α' → β' → Prop} {x : Scan α}
    {y : Except Refusal β} {f : α → Scan α'} {g : β → Except Refusal β'} (h : Agrees line R x y)
    (hfg : ∀ a b, R a b → Agrees line S (f a) (g b)) : Agrees line S (x >>= f) (y >>= g) := by
  cases h with
  | @ok a b hR => exact hfg a b hR
  | error hat => exact .error hat

theorem At.runAt (h : At line pos rest) (p : Char → Bool) :
    Command.runAt p line pos = some (rest.takeWhile p, pos + byteLength (rest.takeWhile p)) ∧
      At line (pos + byteLength (rest.takeWhile p)) (rest.dropWhile p) := by
  obtain ⟨w, hcut⟩ := h.exists_cut
  have hrun : cutAt? rest (byteLength (rest.takeWhile p)) = some (rest.takeWhile p, rest.dropWhile p) :=
    cutAt?_eq_some_iff.mpr ⟨List.takeWhile_append_dropWhile.symm, rfl⟩
  constructor
  · simp only [Command.runAt, hcut, hrun, Option.bind_some, Option.map_some]
  · apply At.append
    rwa [List.takeWhile_append_dropWhile]

theorem agrees_skipGapAt (h : At line pos rest) :
    Agrees line (At line) (skipGapAt line pos) (skipGap rest) := by
  obtain ⟨hrun, hnext⟩ := h.runAt isGap
  rw [skipGapAt, hrun, skipGap]
  cases hw : rest.takeWhile isGap with
  | nil => exact .error h
  | cons c w =>
    rw [hw] at hnext
    exact .ok hnext

theorem agrees_skipKeywordAt (word : String) (h : At line pos rest) :
    Agrees line (At line) (skipKeywordAt word line pos) (skipKeyword word rest) := by
  obtain ⟨hrun, hnext⟩ := h.runAt fun c => !isGap c
  rw [skipKeywordAt, hrun, skipKeyword, Option.map_some]
  by_cases hw : (rest.takeWhile fun c => !isGap c) = word.toList
  · simp only [if_pos hw]
    exact .ok hnext
  · simp only [if_neg hw]
    exact .error h

theorem At.quote (h : At line pos ('"' :: rest)) : At line (pos + 1) rest :=
  At.append (w := ['"']) h

theorem agrees_readStringAt (h : At line pos rest) :
    Agrees line (ValueAt line) (readStringAt line pos) (readString rest) := by
  obtain ⟨w, hcut⟩ := h.exists_cut
  rw [readStringAt, hcut, Option.bind_some]
  by_cases hopen : rest.head? = some '"'
  · obtain ⟨body, rfl⟩ := List.head?_eq_some_iff.mp hopen
    obtain ⟨hrun, hnext⟩ := h.quote.runAt (· != '"')
    obtain ⟨w', hcut'⟩ := hnext.exists_cut
    have hstop : Stops (· != '"') (body.dropWhile (· != '"')) := stops_dropWhile _ body
    simp only [List.head?_cons, if_pos, hrun, Option.bind_some, hcut', Option.map_some, readString]
    generalize hlast : body.dropWhile (· != '"') = last at hnext hstop
    cases last with
    | nil => exact .error h
    | cons c last =>
      have hc : c = '"' := by simpa using hstop
      subst hc
      exact .ok ⟨rfl, hnext.quote⟩
  · simp only [if_neg hopen]
    have hread : readString rest = .error (.expectedString, rest) := by
      unfold readString
      split
      · simp at hopen
      · rfl
    rw [hread]
    exact .error h

theorem agrees_readThresholdAt (h : At line pos rest) :
    Agrees line (ValueAt line) (readThresholdAt line pos) (readThreshold rest) := by
  obtain ⟨hrun, hnext⟩ := h.runAt Char.isDigit
  rw [readThresholdAt, hrun, readThreshold, Option.map_some]
  cases hds : rest.takeWhile Char.isDigit with
  | nil => exact .error h
  | cons d ds =>
    rw [hds] at hnext
    by_cases hsize : decimalValue (d :: ds) < UInt64.size
    · simp only [if_pos hsize, reduceCtorEq, if_false]
      exact .ok ⟨rfl, hnext⟩
    · simp only [if_neg hsize, reduceCtorEq, if_false]
      exact .error h

theorem agrees_finishedAt (c : Command) (h : At line pos rest) :
    Agrees line Eq (finishedAt c line pos) (finished c rest) := by
  cases rest with
  | nil =>
    have hend : pos = byteLength line := h.length_eq.symm
    rw [finishedAt, if_pos hend]
    exact .ok rfl
  | cons d rest =>
    have hend : pos ≠ byteLength line := by
      have hpos := d.utf8Size_pos
      obtain ⟨w, rfl, rfl⟩ := h
      rw [byteLength_append]
      simp only [byteLength]
      omega
    obtain ⟨w, hcut⟩ := h.exists_cut
    rw [finishedAt, if_neg hend, hcut]
    exact .error h

/-- Each command is read in the same way, once its first word is. -/
theorem agrees_readRestAt (word : String) (h : At line pos rest) (hword : word = "" → rest = line) :
    Agrees line Eq (readRestAt line word pos) (readRest line word rest) := by
  unfold readRestAt readRest
  split_ifs with hhelp hexit hlist hload hmany hnone
  · exact agrees_finishedAt _ h
  · exact agrees_finishedAt _ h
  · exact agrees_finishedAt _ h
  · refine (agrees_skipGapAt h).bind fun pos rest h => ?_
    refine (agrees_readStringAt h).bind fun (path, pos) (path', rest) ⟨hpath, h⟩ => ?_
    obtain rfl : path = path' := hpath
    exact agrees_finishedAt _ h
  · refine (agrees_skipGapAt h).bind fun pos rest h => ?_
    refine (agrees_skipKeywordAt "th" h).bind fun pos rest h => ?_
    refine (agrees_skipGapAt h).bind fun pos rest h => ?_
    refine (agrees_readThresholdAt h).bind fun (t, pos) (t', rest) ⟨ht, h⟩ => ?_
    obtain rfl : t = t' := ht
    exact agrees_finishedAt _ h
  · rw [hword hnone] at h
    exact .error h
  · exact .error (.start line)

end Agreement

theorem agrees_readCharsAt (line : List Char) :
    Agrees line Eq (readCharsAt line) (readChars line) := by
  unfold readCharsAt readChars
  split_ifs with hempty
  · exact .error (.start line)
  · obtain ⟨hrun, hnext⟩ := (At.start line).runAt fun c => !isGap c
    rw [hrun, Option.bind_some]
    refine agrees_readRestAt _ hnext fun hword => ?_
    have hnil : (line.takeWhile fun c => !isGap c) = [] := by
      rw [← String.toList_ofList (l := line.takeWhile fun c => !isGap c), hword]
      rfl
    have hsplit := List.takeWhile_append_dropWhile (p := fun c => !isGap c) (l := line)
    rwa [hnil, List.nil_append] at hsplit

/-- A line read by the numbers of its bytes is cut between characters only, and is read as before. -/
theorem readByBytes_eq (line : String) : readByBytes line = some (read line) := by
  have h := agrees_readCharsAt line.toList
  unfold readByBytes read
  generalize readCharsAt line.toList = x, readChars line.toList = y at h
  cases h with
  | @ok c _ heq =>
    obtain rfl := heq
    rfl
  | @error cause pos rest hat =>
    rw [← hat.length_eq]
    rfl

end TypeCensus.Command
