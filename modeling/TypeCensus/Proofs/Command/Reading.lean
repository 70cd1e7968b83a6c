import TypeCensus.Command
import Mathlib.Data.List.TakeWhile

/-!
# Reading — what the readers of a line take

Every reader takes the longest run of characters of a class from the front of a text and hands on the rest.

* `span_iff`: the longest run and the rest, without `takeWhile` and `dropWhile`.
* `skipGap_eq_ok_iff`, `skipKeyword_eq_ok_iff`, `readString_eq_ok_iff`, `readThreshold_eq_ok_iff`: for each reader, the
  texts that it accepts, what it reads off them and what it leaves.
* `readThreshold_of_digits`: digits to the end of a line, with the refusal of a number that is too large.
-/

namespace TypeCensus.Command

/-! ## Runs -/

/-- A text does not begin with a character of a class. -/
def Stops (p : Char → Bool) (cs : List Char) : Prop := ∀ c ∈ cs.head?, p c = false

@[simp] theorem stops_nil (p : Char → Bool) : Stops p [] := by simp [Stops]

@[simp] theorem stops_cons {p : Char → Bool} {c : Char} {cs : List Char} :
    Stops p (c :: cs) ↔ p c = false := by
  simp [Stops]

theorem stops_dropWhile (p : Char → Bool) (cs : List Char) : Stops p (cs.dropWhile p) := by
  intro c hc
  have h := List.head?_dropWhile_not p cs
  rw [Option.mem_def.mp hc] at h
  exact h

theorem takeWhile_append_of_stops {p : Char → Bool} {w rest : List Char} (hw : ∀ c ∈ w, p c)
    (hr : Stops p rest) : (w ++ rest).takeWhile p = w := by
  rw [List.takeWhile_append_of_pos hw]
  cases rest with
  | nil => simp
  | cons c cs =>
    have hc : p c = false := stops_cons.mp hr
    simp [hc]

theorem dropWhile_append_of_stops {p : Char → Bool} {w rest : List Char} (hw : ∀ c ∈ w, p c)
    (hr : Stops p rest) : (w ++ rest).dropWhile p = rest := by
  rw [List.dropWhile_append_of_pos hw]
  cases rest with
  | nil => simp
  | cons c cs =>
    have hc : p c = false := stops_cons.mp hr
    simp [hc]

/-- The longest run of a class and what is left after it. -/
theorem span_iff {p : Char → Bool} {cs w rest : List Char} :
    (cs.takeWhile p = w ∧ cs.dropWhile p = rest) ↔
      cs = w ++ rest ∧ (∀ c ∈ w, p c) ∧ Stops p rest := by
  constructor
  · rintro ⟨rfl, rfl⟩
    exact ⟨List.takeWhile_append_dropWhile.symm, fun c hc => List.mem_takeWhile_imp hc,
      stops_dropWhile p cs⟩
  · rintro ⟨rfl, hw, hr⟩
    exact ⟨takeWhile_append_of_stops hw hr, dropWhile_append_of_stops hw hr⟩

/-! ## Readers -/

theorem bind_eq_ok_iff {ε α β : Type} {x : Except ε α} {f : α → Except ε β} {b : β} :
    x >>= f = .ok b ↔ ∃ a, x = .ok a ∧ f a = .ok b := by
  cases x with
  | error e => simp [bind, Except.bind]
  | ok a => simp [bind, Except.bind]

/-- Some spaces and tabs, at least one. -/
def Gap (w : List Char) : Prop := w ≠ [] ∧ ∀ c ∈ w, c = ' ' ∨ c = '\t'

@[simp] theorem isGap_iff {c : Char} : isGap c = true ↔ c = ' ' ∨ c = '\t' := by simp [isGap]

theorem skipGap_eq_ok_iff {cs rest : List Char} :
    skipGap cs = .ok rest ↔ ∃ w, Gap w ∧ cs = w ++ rest ∧ Stops isGap rest := by
  have hspan : skipGap cs = .ok rest ↔ cs.takeWhile isGap ≠ [] ∧ cs.dropWhile isGap = rest := by
    unfold skipGap
    split
    · next h => simp [h]
    · next h => simpa using fun _ => h
  rw [hspan]
  constructor
  · rintro ⟨hne, hrest⟩
    obtain ⟨hcs, hw, hstop⟩ := span_iff.mp ⟨rfl, hrest⟩
    exact ⟨_, ⟨hne, fun c hc => isGap_iff.mp (hw c hc)⟩, hcs, hstop⟩
  · rintro ⟨w, ⟨hne, hw⟩, hcs, hstop⟩
    obtain ⟨htake, hdrop⟩ := span_iff.mpr ⟨hcs, fun c hc => isGap_iff.mpr (hw c hc), hstop⟩
    exact ⟨htake ▸ hne, hdrop⟩

/-- A keyword is read as a whole word, so what follows it begins with a separator. -/
theorem skipKeyword_eq_ok_iff {word : String} (hword : ∀ c ∈ word.toList, (!isGap c) = true)
    {cs rest : List Char} :
    skipKeyword word cs = .ok rest ↔ cs = word.toList ++ rest ∧ Stops (fun c => !isGap c) rest := by
  have hspan : skipKeyword word cs = .ok rest ↔
      cs.takeWhile (fun c => !isGap c) = word.toList ∧ cs.dropWhile (fun c => !isGap c) = rest := by
    unfold skipKeyword
    split
    · next h => simp [h]
    · next h => simp [h]
  rw [hspan, span_iff]
  exact ⟨fun ⟨h, _, hstop⟩ => ⟨h, hstop⟩, fun ⟨h, hstop⟩ => ⟨h, hword, hstop⟩⟩

theorem readString_eq_ok_iff {cs rest : List Char} {path : String} :
    readString cs = .ok (path, rest) ↔
      '"' ∉ path.toList ∧ cs = '"' :: (path.toList ++ '"' :: rest) := by
  constructor
  · intro h
    unfold readString at h
    split at h
    · next body =>
      split at h
      · next q after hdrop =>
        obtain ⟨hbody, hin, hstop⟩ := span_iff.mp ⟨rfl, hdrop⟩
        simp only [Except.ok.injEq, Prod.mk.injEq] at h
        obtain ⟨rfl, rfl⟩ := h
        have hq : q = '"' := by simpa using hstop
        rw [String.toList_ofList]
        refine ⟨fun hmem => ?_, ?_⟩
        · simpa using hin _ hmem
        · subst hq
          exact congrArg ('"' :: ·) hbody
      · simp at h
    · simp at h
  · rintro ⟨hquote, rfl⟩
    have hin : ∀ c ∈ path.toList, (c != '"') = true := by
      intro c hc
      rw [bne_iff_ne]
      rintro rfl
      exact hquote hc
    have hstop : Stops (· != '"') ('"' :: rest) := by simp
    obtain ⟨htake, hdrop⟩ := span_iff.mpr ⟨rfl, hin, hstop⟩
    simp only [readString]
    rw [hdrop, htake, String.ofList_toList]

/-- Some digits, at least one. -/
def Digits (ds : List Char) : Prop := ds ≠ [] ∧ ∀ c ∈ ds, c.isDigit

theorem readThreshold_eq_ok_iff {cs rest : List Char} {t : Report.Threshold} :
    readThreshold cs = .ok (t, rest) ↔
      ∃ ds, Digits ds ∧ decimalValue ds < UInt64.size ∧ t = .ofNat (decimalValue ds) ∧
        cs = ds ++ rest ∧ Stops Char.isDigit rest := by
  constructor
  · intro h
    unfold readThreshold at h
    split at h
    · simp at h
    · next hne =>
      split at h
      · next hsize =>
        simp only [Except.ok.injEq, Prod.mk.injEq] at h
        obtain ⟨rfl, hrest⟩ := h
        obtain ⟨hcs, hds, hstop⟩ := span_iff.mp ⟨rfl, hrest⟩
        exact ⟨_, ⟨hne, hds⟩, hsize, rfl, hcs, hstop⟩
      · simp at h
  · rintro ⟨ds, ⟨hne, hds⟩, hsize, rfl, hcs, hstop⟩
    obtain ⟨htake, hdrop⟩ := span_iff.mpr ⟨hcs, hds, hstop⟩
    obtain ⟨d, ds, rfl⟩ := List.exists_cons_of_ne_nil hne
    simp only [readThreshold, htake, hdrop]
    rw [if_pos hsize]

/-- Digits to the end of a line are all read, whether the number is too large or not. -/
theorem readThreshold_of_digits {ds : List Char} (hds : Digits ds) :
    readThreshold ds =
      if decimalValue ds < UInt64.size then .ok (.ofNat (decimalValue ds), [])
      else .error (.outOfRange (.ofList ds), ds) := by
  obtain ⟨htake, hdrop⟩ : ds.takeWhile Char.isDigit = ds ∧ ds.dropWhile Char.isDigit = [] :=
    span_iff.mpr ⟨(List.append_nil ds).symm, hds.2, stops_nil _⟩
  unfold readThreshold
  rw [htake, hdrop]
  split
  · next h => exact absurd rfl hds.1
  · rfl

theorem finished_eq_ok_iff {c c' : Command} {rest : List Char} :
    finished c rest = .ok c' ↔ rest = [] ∧ c' = c := by
  cases rest with
  | nil => simp [finished, eq_comm]
  | cons d ds => simp [finished]

theorem finished_of_ne_nil (c : Command) {rest : List Char} (h : rest ≠ []) :
    finished c rest = .error (.trailingInput (.ofList rest), rest) := by
  cases rest with
  | nil => exact absurd rfl h
  | cons d ds => rfl

end TypeCensus.Command
