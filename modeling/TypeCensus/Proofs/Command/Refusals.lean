import TypeCensus.Proofs.Command.Bytes
import TypeCensus.Proofs.Command.RoundTrip

/-!
# Refusals — where a line that is no command is refused

A line is refused at a place between two characters.  What stands before that place can be continued to a command, and
is one if the line is refused for what follows.

* `Viable`: some continuation of a text is a command.
* `skipGap_eq_error`, `skipKeyword_eq_error`, `readString_eq_error`, `readThreshold_eq_error`: a reader that refuses a
  text takes nothing of it.
* `refused_of_readChars`: what stands before the place of a refusal.
* `eq_trailingInput_of_message`: the wording tells a refusal for what follows from all others.
* `rejection_located`: all of it, for a line.
-/

namespace TypeCensus.Command

/-! ## Texts with a continuation -/

/-- Some continuation of a text is a command. -/
def Viable (w : List Char) : Prop := ∃ more c, Denotes (.ofList (w ++ more)) c

theorem Viable.front {w v : List Char} (h : Viable (w ++ v)) : Viable w := by
  obtain ⟨more, c, h⟩ := h
  exact ⟨v ++ more, c, by rwa [← List.append_assoc]⟩

theorem viable_of_denotes {w : List Char} {c : Command} (h : Denotes (.ofList w) c) : Viable w :=
  ⟨[], c, by rwa [List.append_nil]⟩

theorem viable_nil : Viable [] := ⟨"list".toList, .list, by simpa using Denotes.list⟩

theorem viable_load {w : List Char} (hw : Gap w) : Viable ("load".toList ++ w) := by
  have h := viable_of_denotes (denotes_ofList_load hw (List.not_mem_nil))
  rw [← List.append_assoc] at h
  exact h.front

theorem viable_count {k : String} {w₁ w₂ : List Char} (hk : k = "mc" ∨ k = "many-constructors")
    (hw₁ : Gap w₁) (hw₂ : Gap w₂) : Viable (k.toList ++ (w₁ ++ ("th".toList ++ w₂))) := by
  have hds : Digits ['0'] := ⟨by simp, by simp⟩
  have h := viable_of_denotes (denotes_ofList_count hk hw₁ hw₂ hds (by decide))
  simp only [← List.append_assoc] at h
  simpa only [List.append_assoc] using h.front

/-! ## Readers that refuse -/

theorem bind_eq_error_iff {ε α β : Type} {x : Except ε α} {f : α → Except ε β} {e : ε} :
    x >>= f = .error e ↔ x = .error e ∨ ∃ a, x = .ok a ∧ f a = .error e := by
  cases x with
  | error e' => simp [bind, Except.bind]
  | ok a => simp [bind, Except.bind]

/-- A refusal at the beginning of a text, and not for what follows a command. -/
def Refuses (cs : List Char) (e : Refusal) : Prop := e.2 = cs ∧ ∀ t, e.1 ≠ .trailingInput t

theorem skipGap_eq_error {cs : List Char} {e : Refusal} (h : skipGap cs = .error e) : Refuses cs e := by
  unfold skipGap at h
  split at h
  · obtain rfl := Except.error.inj h
    exact ⟨rfl, by simp⟩
  · simp at h

theorem skipKeyword_eq_error {word : String} {cs : List Char} {e : Refusal}
    (h : skipKeyword word cs = .error e) : Refuses cs e := by
  unfold skipKeyword at h
  split at h
  · simp at h
  · obtain rfl := Except.error.inj h
    exact ⟨rfl, by simp⟩

theorem readString_eq_error {cs : List Char} {e : Refusal} (h : readString cs = .error e) :
    Refuses cs e := by
  unfold readString at h
  split at h
  · split at h
    · simp at h
    · obtain rfl := Except.error.inj h
      exact ⟨rfl, by simp⟩
  · obtain rfl := Except.error.inj h
    exact ⟨rfl, by simp⟩

theorem readThreshold_eq_error {cs : List Char} {e : Refusal} (h : readThreshold cs = .error e) :
    Refuses cs e := by
  unfold readThreshold at h
  split at h
  · obtain rfl := Except.error.inj h
    exact ⟨rfl, by simp⟩
  · split at h
    · simp at h
    · obtain rfl := Except.error.inj h
      exact ⟨rfl, by simp⟩

/-! ## What stands before the place -/

/-- What stands before the place of a refusal can be continued to a command.  It is one, if the line is refused for what
follows. -/
def Refused (cs : List Char) (e : Refusal) : Prop :=
  ∃ w, cs = w ++ e.2 ∧ Viable w ∧
    ∀ t, e.1 = .trailingInput t → t = .ofList e.2 ∧ ∃ c, Denotes (.ofList w) c

section Refusal

variable {cs w rest : List Char} {e : Refusal}

theorem refused_of_refuses (hcs : cs = w ++ rest) (hw : Viable w) (h : Refuses rest e) : Refused cs e := by
  obtain ⟨rfl, hcause⟩ := h
  exact ⟨w, hcs, hw, fun t ht => absurd ht (hcause t)⟩

theorem refused_of_finished {c : Command} (hcs : cs = w ++ rest) (hw : Denotes (.ofList w) c)
    (h : finished c rest = .error e) : Refused cs e := by
  have hne : rest ≠ [] := by
    rintro rfl
    simp [finished] at h
  rw [finished_of_ne_nil c hne] at h
  obtain rfl := Except.error.inj h
  refine ⟨w, hcs, viable_of_denotes hw, fun t ht => ⟨?_, c, hw⟩⟩
  exact (Cause.trailingInput.inj ht).symm

theorem refused_load (hcs : cs = "load".toList ++ rest)
    (h : (do
      let rest ← skipGap rest
      let (path, rest) ← readString rest
      finished (.load path) rest) = .error e) : Refused cs e := by
  rw [bind_eq_error_iff] at h
  obtain h | ⟨r₁, hgap, h⟩ := h
  · exact refused_of_refuses hcs (viable_load gap_space).front (skipGap_eq_error h)
  obtain ⟨w, hw, rfl, -⟩ := skipGap_eq_ok_iff.mp hgap
  rw [bind_eq_error_iff] at h
  obtain h | ⟨⟨path, r₂⟩, hstring, h⟩ := h
  · rw [← List.append_assoc] at hcs
    exact refused_of_refuses hcs (viable_load hw) (readString_eq_error h)
  obtain ⟨hpath, rfl⟩ := readString_eq_ok_iff.mp hstring
  have hdenotes := denotes_ofList_load hw hpath
  rw [String.ofList_toList] at hdenotes
  refine refused_of_finished ?_ hdenotes h
  simp [hcs]

theorem refused_manyConstructors {k : String} (hk : k = "mc" ∨ k = "many-constructors")
    (hcs : cs = k.toList ++ rest)
    (h : (do
      let rest ← skipGap rest
      let rest ← skipKeyword "th" rest
      let rest ← skipGap rest
      let (threshold, rest) ← readThreshold rest
      finished (.manyConstructors threshold) rest) = .error e) : Refused cs e := by
  rw [bind_eq_error_iff] at h
  obtain h | ⟨r₁, hgap₁, h⟩ := h
  · exact refused_of_refuses hcs (viable_count hk gap_space gap_space).front (skipGap_eq_error h)
  obtain ⟨w₁, hw₁, rfl, -⟩ := skipGap_eq_ok_iff.mp hgap₁
  have hviable := viable_count hk hw₁ gap_space
  rw [bind_eq_error_iff] at h
  obtain h | ⟨r₂, hth, h⟩ := h
  · rw [← List.append_assoc] at hcs hviable
    exact refused_of_refuses hcs hviable.front (skipKeyword_eq_error h)
  obtain ⟨rfl, -⟩ := (skipKeyword_eq_ok_iff (by simp [isGap])).mp hth
  rw [bind_eq_error_iff] at h
  obtain h | ⟨r₃, hgap₂, h⟩ := h
  · simp only [← List.append_assoc] at hcs hviable
    exact refused_of_refuses hcs hviable.front (skipGap_eq_error h)
  obtain ⟨w₂, hw₂, rfl, -⟩ := skipGap_eq_ok_iff.mp hgap₂
  have hviable := viable_count hk hw₁ hw₂
  rw [bind_eq_error_iff] at h
  obtain h | ⟨⟨t, r₄⟩, hthreshold, h⟩ := h
  · simp only [← List.append_assoc] at hcs hviable
    exact refused_of_refuses hcs hviable (readThreshold_eq_error h)
  obtain ⟨ds, hds, hsize, rfl, rfl, -⟩ := readThreshold_eq_ok_iff.mp hthreshold
  refine refused_of_finished ?_ (denotes_ofList_count hk hw₁ hw₂ hds hsize) h
  simp [hcs]

theorem refused_of_readRest (hcs : cs = w ++ rest) (h : readRest cs (.ofList w) rest = .error e) :
    Refused cs e := by
  have hw : w = (String.ofList w).toList := String.toList_ofList.symm
  have hcs' : cs = (String.ofList w).toList ++ rest := hw ▸ hcs
  simp only [readRest, Bool.or_eq_true, decide_eq_true_eq, or_assoc] at h
  split_ifs at h with hhelp hexit hlist hload hmany hnone
  · exact refused_of_finished hcs (.help hhelp) h
  · exact refused_of_finished hcs (.exit hexit) h
  · exact refused_of_finished hcs (hlist ▸ .list) h
  · exact refused_load (hload ▸ hcs') h
  · exact refused_manyConstructors hmany hcs' h
  · obtain rfl := Except.error.inj h
    exact refused_of_refuses rfl viable_nil ⟨rfl, by simp⟩
  · obtain rfl := Except.error.inj h
    exact refused_of_refuses rfl viable_nil ⟨rfl, by simp⟩

theorem refused_of_readChars (h : readChars cs = .error e) : Refused cs e := by
  unfold readChars at h
  split_ifs at h
  · obtain rfl := Except.error.inj h
    exact refused_of_refuses rfl viable_nil ⟨rfl, by simp⟩
  · exact refused_of_readRest List.takeWhile_append_dropWhile.symm h

end Refusal

/-! ## Places and wordings -/

theorem byteLength_toList (s : String) : byteLength s.toList = s.utf8ByteSize := by
  have hlength (cs : List Char) : byteLength cs = (String.ofList cs).utf8ByteSize := by
    induction cs with
    | nil => rfl
    | cons c cs ih =>
      have hsplit : String.ofList (c :: cs) = String.singleton c ++ String.ofList cs := by
        apply String.toList_inj.mp
        simp
      rw [byteLength, ih, hsplit, String.utf8ByteSize_append, String.utf8ByteSize_singleton]
  rw [hlength, String.ofList_toList]

/-- The wording tells a refusal for what follows a command from all others. -/
theorem eq_trailingInput_of_message {cause : Cause} {s t : List Char}
    (h : cause.message.toList ++ s = "unexpected trailing input".toList ++ t) :
    ∃ q, cause = .trailingInput q := by
  unfold Cause.message at h
  cases cause with
  | trailingInput q => exact ⟨q, rfl⟩
  | emptyCommand => simp at h
  | expectedCommand => simp at h
  | unknownCommand word => simp at h
  | expectedBlank => simp at h
  | expectedKeyword word => simp at h
  | expectedString => simp at h
  | unterminatedString => simp at h
  | expectedInteger => simp at h
  | outOfRange digits => simp at h

theorem exists_split_of_refused {line : String} {cause : Cause} {rest : List Char}
    (h : Refused line.toList (cause, rest)) :
    ∃ w : String, line = w ++ .ofList rest ∧ w.utf8ByteSize = byteLength line.toList - byteLength rest ∧
      (∃ more c, Denotes (w ++ more) c) ∧
      ∀ t, cause = .trailingInput t → t = .ofList rest ∧ ∃ c, Denotes w c := by
  obtain ⟨w, hline, ⟨more, c, hmore⟩, htrailing⟩ := h
  refine ⟨.ofList w, ?_, ?_, ⟨.ofList more, c, ?_⟩, htrailing⟩
  · apply String.toList_inj.mp
    simpa using hline
  · rw [← byteLength_toList, String.toList_ofList, hline, byteLength_append, Nat.add_sub_cancel]
  · rwa [← String.ofList_append]

/-- **Refusals.**  A refused line is given back with the number of bytes before the place of the refusal, which lies
between two characters; so do all places where the line is cut on the way.  The message names the column behind these
bytes.  What stands before the place can be continued to a command, and is one if the line is refused for what follows:
then the message quotes the rest of the line. -/
theorem rejection_located (line : String) (r : Rejection) (h : read line = .error r) :
    r.line = line ∧ r.offset ≤ line.utf8ByteSize ∧ (⟨r.offset⟩ : String.Pos.Raw).IsValid line ∧
      readByBytes line = some (.error r) ∧
      (∃ wording, r.detail = wording ++ "at column " ++ toString (r.offset + 1)) ∧
      ∃ w rest, line = w ++ rest ∧ w.utf8ByteSize = r.offset ∧
        (∃ more c, read (w ++ more) = .ok c) ∧
        ((∃ t, r.detail = "unexpected trailing input" ++ t) →
          (∃ c, read w = .ok c) ∧
            r.detail = "unexpected trailing input `" ++ rest ++ "` at column " ++ toString (r.offset + 1)) := by
  have hbytes : readByBytes line = some (.error r) := by rw [readByBytes_eq, h]
  have hread : ∃ cause rest, readChars line.toList = .error (cause, rest) ∧
      r = { line, cause, offset := byteLength line.toList - byteLength rest } := by
    unfold read at h
    split at h
    · simp at h
    · next cause rest hrest => exact ⟨cause, rest, hrest, (Except.error.inj h).symm⟩
  obtain ⟨cause, rest, hrest, rfl⟩ := hread
  obtain ⟨w, hline, hsize, ⟨more, c, hmore⟩, htrailing⟩ :=
    exists_split_of_refused (refused_of_readChars hrest)
  refine ⟨rfl, ?_, ?_, hbytes, ⟨cause.message ++ " ", ?_⟩, w, .ofList rest, hline, hsize,
    ⟨more, c, read_eq_ok_iff.mpr hmore⟩, ?_⟩
  · rw [← hsize, hline, String.utf8ByteSize_append]
    exact Nat.le_add_right _ _
  · rw [String.Pos.Raw.isValid_iff_exists_append]
    refine ⟨w, .ofList rest, hline, ?_⟩
    rw [← hsize]
    rfl
  · apply String.toList_inj.mp
    simp [Rejection.detail]
  · rintro ⟨t, ht⟩
    have hwording : ∃ q, cause = .trailingInput q := by
      have hchars := congrArg String.toList ht
      simp only [Rejection.detail, String.toList_append, List.append_assoc] at hchars
      exact eq_trailingInput_of_message hchars
    obtain ⟨q, rfl⟩ := hwording
    obtain ⟨rfl, c, hc⟩ := htrailing q rfl
    refine ⟨⟨c, read_eq_ok_iff.mpr hc⟩, ?_⟩
    apply String.toList_inj.mp
    unfold Rejection.detail Cause.message
    simp

/-- A line with more behind a command, and text outside ASCII on both sides of the place. -/
def sampleLine : String := "load \"ä\" ü"

/-- What is said about it. -/
def sampleRejection : Rejection where
  line := sampleLine
  cause := .trailingInput " ü"
  offset := 9

theorem rejection_sampleLine :
    read sampleLine = .error sampleRejection ∧ (⟨9⟩ : String.Pos.Raw).IsValid sampleLine ∧
      readByBytes sampleLine = some (.error sampleRejection) ∧
      ∃ w rest, sampleLine = w ++ rest ∧ w.utf8ByteSize = 9 ∧ (∃ c, read w = .ok c) ∧
        sampleRejection.detail = "unexpected trailing input `" ++ rest ++ "` at column " ++ toString 10 := by
  have hread : read sampleLine = .error sampleRejection := by decide +kernel
  have hwording : ∃ t, sampleRejection.detail = "unexpected trailing input" ++ t :=
    ⟨" ` ü` at column 10", by decide +kernel⟩
  obtain ⟨-, -, hvalid, hbytes, -, w, rest, hline, hsize, -, htrailing⟩ :=
    rejection_located sampleLine sampleRejection hread
  obtain ⟨hcommand, hdetail⟩ := htrailing hwording
  exact ⟨hread, hvalid, hbytes, w, rest, hline, hsize, hcommand, hdetail⟩

end TypeCensus.Command
