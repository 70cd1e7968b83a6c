import TypeCensus.Proofs.Command.Reading
import Mathlib.Data.List.Induction
import Mathlib.Data.Nat.Digits.Defs

/-!
# Grammar — the lines that are commands

`Denotes line c` is the grammar of a session, one constructor for each form of a command.  Reading accepts just these
lines, with the command that they denote, and refuses all others.

* `denotes_of_readChars`: what is read is denoted.
* `readChars_of_denotes`: what is denoted is read.
* `read_eq_exit_iff`: the lines that end a session.
* `read_outOfRange`: where a threshold that is too large is refused.
-/

namespace TypeCensus.Command

/-- The number that some digits name, the first one weighing most. -/
def numeral (ds : List Char) : Nat := Nat.ofDigits 10 (ds.map digitValue).reverse

/-- The command that a line denotes. -/
inductive Denotes : String → Command → Prop where
  | help {line : String} (h : line = "help" ∨ line = "h") : Denotes line .help
  | exit {line : String} (h : line = "exit" ∨ line = "quit" ∨ line = "q") : Denotes line .exit
  | list : Denotes "list" .list
  | load {w path : String} (hw : Gap w.toList) (hpath : '"' ∉ path.toList) :
      Denotes ("load" ++ w ++ "\"" ++ path ++ "\"") (.load path)
  | manyConstructors {k w₁ w₂ d : String} (hk : k = "mc" ∨ k = "many-constructors")
      (hw₁ : Gap w₁.toList) (hw₂ : Gap w₂.toList) (hd : Digits d.toList)
      (hn : numeral d.toList < 2 ^ 64) :
      Denotes (k ++ w₁ ++ "th" ++ w₂ ++ d) (.manyConstructors (.ofNat (numeral d.toList)))

theorem decimalValue_eq_numeral (ds : List Char) : decimalValue ds = numeral ds := by
  induction ds using List.reverseRecOn with
  | nil => rfl
  | append_singleton ds d ih =>
    have hstep : decimalValue (ds ++ [d]) = 10 * decimalValue ds + digitValue d := by
      simp [decimalValue]
    rw [hstep, ih]
    simp [numeral, Nat.ofDigits_cons, Nat.add_comm]

/-! ## The first word -/

/-- The first word of a line ends where the line does or where a separator stands. -/
theorem readChars_append {w rest : List Char} (hne : w ≠ []) (hw : ∀ c ∈ w, (!isGap c) = true)
    (hrest : Stops (fun c => !isGap c) rest) :
    readChars (w ++ rest) = readRest (w ++ rest) (.ofList w) rest := by
  obtain ⟨htake, hdrop⟩ := span_iff.mpr ⟨rfl, hw, hrest⟩
  unfold readChars
  rw [htake, hdrop]
  simp [hne]

theorem Gap.stops {w : List Char} (h : Gap w) (rest : List Char) :
    Stops (fun c => !isGap c) (w ++ rest) := by
  obtain ⟨c, w, rfl⟩ := List.exists_cons_of_ne_nil h.1
  have hc : isGap c = true := isGap_iff.mpr (h.2 c (by simp))
  simp [hc]

theorem Digits.stops {ds : List Char} (h : Digits ds) : Stops isGap ds := by
  obtain ⟨c, ds, rfl⟩ := List.exists_cons_of_ne_nil h.1
  have hc : c.isDigit = true := h.2 c (by simp)
  rw [stops_cons, Bool.eq_false_iff, ne_eq, isGap_iff]
  rintro (rfl | rfl) <;> contradiction

/-! ## What is read is denoted -/

theorem denotes_ofList_load {w path : List Char} (hw : Gap w) (hpath : '"' ∉ path) :
    Denotes (.ofList ("load".toList ++ (w ++ '"' :: (path ++ ['"'])))) (.load (.ofList path)) := by
  have hline : String.ofList ("load".toList ++ (w ++ '"' :: (path ++ ['"']))) =
      "load" ++ .ofList w ++ "\"" ++ .ofList path ++ "\"" := by
    apply String.toList_inj.mp
    simp
  rw [hline]
  exact .load (by simpa using hw) (by simpa using hpath)

theorem denotes_ofList_count {k : String} {w₁ w₂ ds : List Char} (hk : k = "mc" ∨ k = "many-constructors")
    (hw₁ : Gap w₁) (hw₂ : Gap w₂) (hds : Digits ds) (hsize : decimalValue ds < UInt64.size) :
    Denotes (.ofList (k.toList ++ (w₁ ++ ("th".toList ++ (w₂ ++ ds)))))
      (.manyConstructors (.ofNat (decimalValue ds))) := by
  have hline : String.ofList (k.toList ++ (w₁ ++ ("th".toList ++ (w₂ ++ ds)))) =
      k ++ .ofList w₁ ++ "th" ++ .ofList w₂ ++ .ofList ds := by
    apply String.toList_inj.mp
    simp
  have hnum : decimalValue ds = numeral (String.ofList ds).toList := by
    rw [String.toList_ofList, decimalValue_eq_numeral]
  rw [hnum] at hsize
  rw [hline, hnum]
  exact .manyConstructors hk (by simpa using hw₁) (by simpa using hw₂) (by simpa using hds) hsize

theorem denotes_load {cs rest : List Char} {c : Command} (hcs : cs = "load".toList ++ rest)
    (h : (do
      let rest ← skipGap rest
      let (path, rest) ← readString rest
      finished (.load path) rest) = .ok c) : Denotes (.ofList cs) c := by
  obtain ⟨r, hgap, h⟩ := bind_eq_ok_iff.mp h
  obtain ⟨⟨path, r'⟩, hstring, h⟩ := bind_eq_ok_iff.mp h
  obtain ⟨rfl, rfl⟩ := finished_eq_ok_iff.mp h
  obtain ⟨w, hw, rfl, -⟩ := skipGap_eq_ok_iff.mp hgap
  obtain ⟨hpath, rfl⟩ := readString_eq_ok_iff.mp hstring
  have hdenotes := denotes_ofList_load hw hpath
  rwa [← hcs, String.ofList_toList] at hdenotes

theorem denotes_manyConstructors {cs rest : List Char} {k : String} {c : Command}
    (hk : k = "mc" ∨ k = "many-constructors") (hcs : cs = k.toList ++ rest)
    (h : (do
      let rest ← skipGap rest
      let rest ← skipKeyword "th" rest
      let rest ← skipGap rest
      let (threshold, rest) ← readThreshold rest
      finished (.manyConstructors threshold) rest) = .ok c) : Denotes (.ofList cs) c := by
  obtain ⟨r₁, hgap₁, h⟩ := bind_eq_ok_iff.mp h
  obtain ⟨r₂, hth, h⟩ := bind_eq_ok_iff.mp h
  obtain ⟨r₃, hgap₂, h⟩ := bind_eq_ok_iff.mp h
  obtain ⟨⟨t, r₄⟩, hthreshold, h⟩ := bind_eq_ok_iff.mp h
  obtain ⟨rfl, rfl⟩ := finished_eq_ok_iff.mp h
  obtain ⟨w₁, hw₁, rfl, -⟩ := skipGap_eq_ok_iff.mp hgap₁
  obtain ⟨rfl, -⟩ := (skipKeyword_eq_ok_iff (by simp [isGap])).mp hth
  obtain ⟨w₂, hw₂, rfl, -⟩ := skipGap_eq_ok_iff.mp hgap₂
  obtain ⟨ds, hds, hsize, rfl, rfl, -⟩ := readThreshold_eq_ok_iff.mp hthreshold
  rw [List.append_nil] at hcs
  rw [hcs]
  exact denotes_ofList_count hk hw₁ hw₂ hds hsize

theorem denotes_of_readRest {cs w rest : List Char} {c : Command} (hcs : cs = w ++ rest)
    (h : readRest cs (.ofList w) rest = .ok c) : Denotes (.ofList cs) c := by
  have hw : w = (String.ofList w).toList := String.toList_ofList.symm
  rw [hw] at hcs
  generalize String.ofList w = word at h hcs
  have hline (h : rest = []) : String.ofList cs = word := by
    apply String.toList_inj.mp
    simp [hcs, h]
  simp only [readRest, Bool.or_eq_true, decide_eq_true_eq, or_assoc] at h
  split_ifs at h with hhelp hexit hlist hload hmany hnone
  · obtain ⟨hrest, rfl⟩ := finished_eq_ok_iff.mp h
    exact .help (hline hrest ▸ hhelp)
  · obtain ⟨hrest, rfl⟩ := finished_eq_ok_iff.mp h
    exact .exit (hline hrest ▸ hexit)
  · obtain ⟨hrest, rfl⟩ := finished_eq_ok_iff.mp h
    rw [hline hrest, hlist]
    exact .list
  · exact denotes_load (hload ▸ hcs) h
  · exact denotes_manyConstructors hmany hcs h

theorem denotes_of_readChars {cs : List Char} {c : Command} (h : readChars cs = .ok c) :
    Denotes (.ofList cs) c := by
  unfold readChars at h
  split_ifs at h
  exact denotes_of_readRest List.takeWhile_append_dropWhile.symm h

/-! ## What is denoted is read -/

/-- What is read of a line that asks for a path ends at the second quote. -/
theorem readChars_quoted {w path : String} (hw : Gap w.toList) (hpath : '"' ∉ path.toList) (rest : String) :
    readChars ("load" ++ w ++ "\"" ++ path ++ "\"" ++ rest).toList =
      finished (.load path) rest.toList := by
  have hcs : ("load" ++ w ++ "\"" ++ path ++ "\"" ++ rest).toList =
      "load".toList ++ (w.toList ++ '"' :: (path.toList ++ '"' :: rest.toList)) := by simp
  have hgap : skipGap (w.toList ++ '"' :: (path.toList ++ '"' :: rest.toList)) =
      .ok ('"' :: (path.toList ++ '"' :: rest.toList)) :=
    skipGap_eq_ok_iff.mpr ⟨_, hw, rfl, stops_cons.mpr (by decide)⟩
  have hstring : readString ('"' :: (path.toList ++ '"' :: rest.toList)) = .ok (path, rest.toList) :=
    readString_eq_ok_iff.mpr ⟨hpath, rfl⟩
  rw [hcs, readChars_append (by simp) (by simp [isGap]) (hw.stops _), String.ofList_toList]
  simp only [readRest]
  simp only [hgap, hstring, bind, Except.bind]
  rfl

theorem readChars_load {w path : String} (hw : Gap w.toList) (hpath : '"' ∉ path.toList) :
    readChars ("load" ++ w ++ "\"" ++ path ++ "\"").toList = .ok (.load path) := by
  have h := readChars_quoted hw hpath ""
  rwa [String.append_empty] at h

/-- What is read of a line that asks for a threshold depends on its digits only. -/
theorem readChars_count {k w₁ w₂ d : String} (hk : k = "mc" ∨ k = "many-constructors")
    (hw₁ : Gap w₁.toList) (hw₂ : Gap w₂.toList) (hd : Digits d.toList) :
    readChars (k ++ w₁ ++ "th" ++ w₂ ++ d).toList =
      if numeral d.toList < 2 ^ 64 then .ok (.manyConstructors (.ofNat (numeral d.toList)))
      else .error (.outOfRange d, d.toList) := by
  have hcs : (k ++ w₁ ++ "th" ++ w₂ ++ d).toList =
      k.toList ++ (w₁.toList ++ ("th".toList ++ (w₂.toList ++ d.toList))) := by simp
  have hgap₁ : skipGap (w₁.toList ++ ("th".toList ++ (w₂.toList ++ d.toList))) =
      .ok ("th".toList ++ (w₂.toList ++ d.toList)) :=
    skipGap_eq_ok_iff.mpr ⟨_, hw₁, rfl, stops_cons.mpr (by decide)⟩
  have hth : skipKeyword "th" ("th".toList ++ (w₂.toList ++ d.toList)) =
      .ok (w₂.toList ++ d.toList) :=
    (skipKeyword_eq_ok_iff (by simp [isGap])).mpr ⟨rfl, hw₂.stops _⟩
  have hgap₂ : skipGap (w₂.toList ++ d.toList) = .ok d.toList :=
    skipGap_eq_ok_iff.mpr ⟨_, hw₂, rfl, hd.stops⟩
  have hrest : readRest (k ++ w₁ ++ "th" ++ w₂ ++ d).toList k
      (w₁.toList ++ ("th".toList ++ (w₂.toList ++ d.toList))) =
      readThreshold d.toList >>= fun p => finished (.manyConstructors p.1) p.2 := by
    rcases hk with rfl | rfl
    all_goals
      simp only [readRest]
      simp only [hgap₁, hth, hgap₂, bind, Except.bind]
      rfl
  have hword : k.toList ≠ [] ∧ ∀ c ∈ k.toList, (!isGap c) = true := by
    rcases hk with rfl | rfl <;> simp [isGap]
  have hsize : UInt64.size = 2 ^ 64 := rfl
  rw [hcs] at hrest ⊢
  rw [readChars_append hword.1 hword.2 (hw₁.stops _), String.ofList_toList, hrest,
    readThreshold_of_digits hd, decimalValue_eq_numeral, String.ofList_toList, hsize]
  by_cases hn : numeral d.toList < 2 ^ 64
  · rw [if_pos hn, if_pos hn]
    rfl
  · rw [if_neg hn, if_neg hn]
    rfl

theorem readChars_manyConstructors {k w₁ w₂ d : String} (hk : k = "mc" ∨ k = "many-constructors")
    (hw₁ : Gap w₁.toList) (hw₂ : Gap w₂.toList) (hd : Digits d.toList)
    (hn : numeral d.toList < 2 ^ 64) :
    readChars (k ++ w₁ ++ "th" ++ w₂ ++ d).toList =
      .ok (.manyConstructors (.ofNat (numeral d.toList))) := by
  rw [readChars_count hk hw₁ hw₂ hd, if_pos hn]

theorem readChars_of_denotes {line : String} {c : Command} (h : Denotes line c) :
    readChars line.toList = .ok c := by
  cases h with
  | help h => rcases h with rfl | rfl <;> rfl
  | exit h => rcases h with rfl | rfl | rfl <;> rfl
  | list => rfl
  | load hw hpath => exact readChars_load hw hpath
  | manyConstructors hk hw₁ hw₂ hd hn => exact readChars_manyConstructors hk hw₁ hw₂ hd hn

/-! ## Lines -/

theorem read_eq_ok_iff_readChars {line : String} {c : Command} :
    read line = .ok c ↔ readChars line.toList = .ok c := by
  unfold read
  split
  · next h => rw [h]; simp
  · next h => rw [h]; simp

theorem read_eq_ok_iff {line : String} {c : Command} : read line = .ok c ↔ Denotes line c := by
  rw [read_eq_ok_iff_readChars]
  constructor
  · intro h
    have hd := denotes_of_readChars h
    rwa [String.ofList_toList] at hd
  · exact readChars_of_denotes

theorem byteLength_append (cs ds : List Char) :
    byteLength (cs ++ ds) = byteLength cs + byteLength ds := by
  induction cs with
  | nil => simp [byteLength]
  | cons c cs ih => simp [byteLength, ih, Nat.add_assoc]

/-- A threshold that is too large is refused at its first digit. -/
theorem read_outOfRange {k w₁ w₂ d : String} (hk : k = "mc" ∨ k = "many-constructors")
    (hw₁ : Gap w₁.toList) (hw₂ : Gap w₂.toList) (hd : Digits d.toList)
    (hn : 2 ^ 64 ≤ numeral d.toList) :
    read (k ++ w₁ ++ "th" ++ w₂ ++ d) =
      .error
        { line := k ++ w₁ ++ "th" ++ w₂ ++ d, cause := .outOfRange d
          offset := byteLength (k ++ w₁ ++ "th" ++ w₂).toList } := by
  have hlength : byteLength (k ++ w₁ ++ "th" ++ w₂ ++ d).toList =
      byteLength (k ++ w₁ ++ "th" ++ w₂).toList + byteLength d.toList := by
    rw [String.toList_append, byteLength_append]
  rw [read, readChars_count hk hw₁ hw₂ hd, if_neg (by omega)]
  simp only [hlength, Nat.add_sub_cancel]

/-- The lines that end a session. -/
def exitWords : List String := ["exit", "quit", "q"]

theorem read_eq_exit_iff {line : String} : read line = .ok .exit ↔ line ∈ exitWords := by
  rw [read_eq_ok_iff]
  simp only [exitWords, List.mem_cons, List.not_mem_nil, or_false]
  constructor
  · rintro ⟨⟩
    assumption
  · exact .exit

/-- **The grammar of a session.**  Reading accepts the lines that denote a command, and refuses every other line. -/
theorem read_iff_denotes (line : String) :
    (∀ c, read line = .ok c ↔ Denotes line c) ∧
      ((∃ r, read line = .error r) ↔ ∀ c, ¬ Denotes line c) := by
  refine ⟨fun c => read_eq_ok_iff, ?_⟩
  constructor
  · rintro ⟨r, hr⟩ c hc
    rw [read_eq_ok_iff.mpr hc] at hr
    cases hr
  · intro h
    cases hr : read line with
    | ok c => exact absurd (read_eq_ok_iff.mp hr) (h c)
    | error r => exact ⟨r, rfl⟩

end TypeCensus.Command
