import TypeCensus.Loading
import Mathlib.Data.List.Forall2

/-!
# Lists — several patterns read together

The patterns of a list are read one after the other, and the first invalid one decides.

* `ofStrings_cases`: either all are valid, and each is read by itself, or one is the first invalid one.
* `exists_ofStrings_iff`, `ofStrings_eq_error_iff`: what is read tells which of the two it is.
* `ofStrings_append`, `mem_of_ofStrings`: the patterns of a list are those of its texts.
-/

namespace TypeCensus.Glob

/-- A text that is a pattern. -/
def Valid (p : String) : Prop := ∃ g, ofString p = .ok g

/-- The first invalid one of some patterns, and what is wrong with it. -/
structure FirstInvalid (ps : List String) (p : String) (e : Error) : Prop where
  first : ∃ before after, ps = before ++ p :: after ∧ ∀ q ∈ before, Valid q
  invalid : ofString p = .error e

variable {p : String} {ps qs : List String} {g : Glob} {gs hs : List Glob} {e : Error}

theorem not_valid_of_error (h : ofString p = .error e) : ¬ Valid p := by
  rintro ⟨g, hg⟩
  simp [hg] at h

theorem FirstInvalid.cons (hp : Valid p) {q : String} (h : FirstInvalid ps q e) :
    FirstInvalid (p :: ps) q e := by
  obtain ⟨before, after, rfl, hbefore⟩ := h.first
  exact ⟨⟨p :: before, after, rfl, by simpa using ⟨hp, hbefore⟩⟩, h.invalid⟩

theorem ofStrings_cons_of_ok (h : ofString p = .ok g) :
    ofStrings (p :: ps) = (ofStrings ps).map (g :: ·) := by
  rw [ofStrings, List.mapM_cons, h, ofStrings]
  cases ps.mapM ofString <;> rfl

theorem ofStrings_cons_of_error (h : ofString p = .error e) : ofStrings (p :: ps) = .error e := by
  rw [ofStrings, List.mapM_cons, h]
  rfl

/-- Either all patterns are valid, and each is read by itself, or one of them is the first invalid one. -/
theorem ofStrings_cases (ps : List String) :
    (∃ gs, ofStrings ps = .ok gs ∧ List.Forall₂ (fun p g => ofString p = .ok g) ps gs) ∨
      ∃ p e, ofStrings ps = .error e ∧ FirstInvalid ps p e := by
  induction ps with
  | nil => exact .inl ⟨[], rfl, .nil⟩
  | cons p ps ih =>
    cases h : ofString p with
    | error e => exact .inr ⟨p, e, ofStrings_cons_of_error h, ⟨[], ps, rfl, by simp⟩, h⟩
    | ok g =>
      obtain ⟨gs, hgs, hall⟩ | ⟨q, e, he, hfirst⟩ := ih
      · exact .inl ⟨g :: gs, by rw [ofStrings_cons_of_ok h, hgs]; rfl, .cons h hall⟩
      · exact .inr ⟨q, e, by rw [ofStrings_cons_of_ok h, he]; rfl, hfirst.cons ⟨g, h⟩⟩

theorem valid_of_forall₂ (h : List.Forall₂ (fun p g => ofString p = .ok g) ps gs) :
    ∀ p ∈ ps, Valid p := by
  induction h with
  | nil => simp
  | cons hp _ ih => simpa using ⟨⟨_, hp⟩, ih⟩

theorem FirstInvalid.not_forall_valid (h : FirstInvalid ps p e) : ¬ ∀ q ∈ ps, Valid q := by
  obtain ⟨before, after, rfl, -⟩ := h.first
  exact fun hall => not_valid_of_error h.invalid (hall p (by simp))

/-- There is but one first invalid pattern. -/
theorem FirstInvalid.unique {p' : String} {e' : Error} (h : FirstInvalid ps p e)
    (h' : FirstInvalid ps p' e') : p = p' ∧ e = e' := by
  have heq : p = p' := by
    obtain ⟨before, after, rfl, hbefore⟩ := h.first
    obtain ⟨before', after', heq, hbefore'⟩ := h'.first
    obtain ⟨rest, rfl, hrest⟩ | ⟨rest, rfl, hrest⟩ := List.append_eq_append_iff.mp heq
    · cases rest with
      | nil => exact (List.cons.inj hrest).1
      | cons q rest =>
        obtain ⟨rfl, -⟩ := List.cons.inj hrest
        exact absurd (hbefore' p (by simp)) (not_valid_of_error h.invalid)
    · cases rest with
      | nil => exact (List.cons.inj hrest).1.symm
      | cons q rest =>
        obtain ⟨rfl, -⟩ := List.cons.inj hrest
        exact absurd (hbefore p' (by simp)) (not_valid_of_error h'.invalid)
  subst heq
  exact ⟨rfl, Except.error.inj (h.invalid.symm.trans h'.invalid)⟩

/-! ## What is read -/

theorem exists_ofStrings_iff : (∃ gs, ofStrings ps = .ok gs) ↔ ∀ p ∈ ps, Valid p := by
  obtain ⟨gs, hgs, hall⟩ | ⟨p, e, he, hfirst⟩ := ofStrings_cases ps
  · exact iff_of_true ⟨gs, hgs⟩ (valid_of_forall₂ hall)
  · exact iff_of_false (by simp [he]) hfirst.not_forall_valid

theorem forall₂_of_ofStrings (h : ofStrings ps = .ok gs) :
    List.Forall₂ (fun p g => ofString p = .ok g) ps gs := by
  obtain ⟨gs', hgs', hall⟩ | ⟨p, e, he, -⟩ := ofStrings_cases ps
  · exact Except.ok.inj (hgs'.symm.trans h) ▸ hall
  · simp [he] at h

/-- What goes wrong is what is wrong with the first invalid pattern. -/
theorem ofStrings_eq_error_iff : ofStrings ps = .error e ↔ ∃ p, FirstInvalid ps p e := by
  obtain ⟨gs, hgs, hall⟩ | ⟨p, e', he', hfirst⟩ := ofStrings_cases ps
  · exact iff_of_false (by simp [hgs]) fun ⟨p, hp⟩ => hp.not_forall_valid (valid_of_forall₂ hall)
  · rw [he', Except.error.injEq]
    exact ⟨fun heq => ⟨p, heq ▸ hfirst⟩, fun ⟨p', hp'⟩ => (hfirst.unique hp').2⟩

/-- The patterns of a list are those of its texts. -/
theorem mem_of_ofStrings (h : ofStrings ps = .ok gs) : g ∈ gs ↔ ∃ p ∈ ps, ofString p = .ok g := by
  have hall := forall₂_of_ofStrings h
  clear h
  induction hall with
  | nil => simp
  | cons hp _ ih => simp [ih, hp, eq_comm]

theorem ofStrings_append (hps : ofStrings ps = .ok gs) (hqs : ofStrings qs = .ok hs) :
    ofStrings (ps ++ qs) = .ok (gs ++ hs) := by
  rw [ofStrings] at hps hqs ⊢
  rw [List.mapM_append, hps, hqs]
  rfl

end TypeCensus.Glob
