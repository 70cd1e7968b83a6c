import Mathlib.Data.List.Forall2

/-!
# Pairing — two lists, item by item

A list that is read off another one corresponds to it item by item, where that holds of each piece.

* `forall₂_flatMap`: pieces for each item, put together.
* `forall₂_filterMap`, `forall₂_filter_filterMap`: items of which only some give anything.
-/

namespace TypeCensus

theorem forall₂_flatMap {α β γ : Type} {R : α → β → Prop} {f : γ → List α} {g : γ → List β}
    {cs : List γ} (h : ∀ c ∈ cs, List.Forall₂ R (f c) (g c)) :
    List.Forall₂ R (cs.flatMap f) (cs.flatMap g) := by
  induction cs with
  | nil => exact .nil
  | cons c cs ih =>
    rw [List.flatMap_cons, List.flatMap_cons]
    refine List.rel_append (h c List.mem_cons_self) (ih fun c' hc' => ?_)
    exact h c' (List.mem_cons_of_mem c hc')

section FilterMap

variable {α β : Type} {R : α → β → Prop} {f : α → Option β}

theorem forall₂_filterMap (h : ∀ a b, f a = some b → R a b) (l : List α) :
    List.Forall₂ R (l.filter fun a => (f a).isSome) (l.filterMap f) := by
  induction l with
  | nil => exact .nil
  | cons a l ih =>
    cases hf : f a with
    | none => simpa [hf] using ih
    | some b => simpa [hf] using ⟨h a b hf, ih⟩

/-- The items that give something may be told by another predicate. -/
theorem forall₂_filter_filterMap {p : α → Prop} [DecidablePred p] (hp : ∀ a, (f a).isSome = true ↔ p a)
    (h : ∀ a b, f a = some b → R a b) (l : List α) :
    List.Forall₂ R (l.filter p) (l.filterMap f) := by
  have hfilter : l.filter p = l.filter fun a => (f a).isSome := by
    refine List.filter_congr fun a _ => ?_
    rw [Bool.eq_iff_iff, decide_eq_true_iff, hp]
  rw [hfilter]
  exact forall₂_filterMap h l

end FilterMap

end TypeCensus
