import TypeCensus.Java.Extraction
import Mathlib.Data.List.Lex

/-!
# Places — where nodes stand in a tree

A place is the way to a node: the numbers of the children to go down to.  Named children, bodies and members are
described by their places first, as relations, and then listed in the order of the source.

* `mem_namedPlaces`, `bodyPlace?_eq_some_iff`, `mem_memberPlaces`: the lists hold what the relations say.
* `map_fst_memberPlaces`: the listed nodes are those of `memberNodes`.
* `pairwise_memberPlaces`: members stand side by side, in the order of their places.
-/

namespace TypeCensus.Java

open TypeCensus.Syntax (Node)

/-! ## Order of places -/

/-- The way to a node, as the numbers of the children to go down to. -/
abbrev Place := List Nat

/-- One place comes before another in pre-order: it is above, or to the left. -/
def Precedes (p q : Place) : Prop := List.Lex (· < ·) p q

/-- One place lies to the left of another, neither of them above the other. -/
def LeftOf (p q : Place) : Prop :=
  ∃ s i j t u, p = s ++ i :: t ∧ q = s ++ j :: u ∧ i < j

theorem precedes_of_above {p : Place} (h : p ≠ []) : Precedes [] p := by
  obtain ⟨i, p, rfl⟩ := List.exists_cons_of_ne_nil h
  exact .nil

theorem Precedes.append_left {p q : Place} (h : Precedes p q) (s : Place) :
    Precedes (s ++ p) (s ++ q) :=
  List.Lex.append_left _ h s

theorem LeftOf.precedes {p q : Place} (h : LeftOf p q) (p' q' : Place) :
    Precedes (p ++ p') (q ++ q') := by
  obtain ⟨s, i, j, t, u, rfl, rfl, hij⟩ := h
  rw [List.append_assoc, List.append_assoc]
  exact Precedes.append_left (.rel hij) s

/-! ## Named children -/

/-- A named child, with its number. -/
def NamedAt (n : Node) (i : Nat) (c : Node) : Prop :=
  n.children[i]? = some c ∧ c.info.named = true

/-- The named children with their numbers. -/
def namedPlaces (n : Node) : List (Node × Nat) := n.children.zipIdx.filter (·.1.info.named)

theorem map_fst_namedPlaces (n : Node) : (namedPlaces n).map (·.1) = n.namedChildren := by
  rw [Node.namedChildren, ← List.zipIdx_map_fst 0 n.children, List.filter_map]
  rfl

theorem mem_namedPlaces {n c : Node} {i : Nat} : (c, i) ∈ namedPlaces n ↔ NamedAt n i c := by
  rw [namedPlaces, List.mem_filter, List.mem_zipIdx_iff_getElem?]
  rfl

theorem pairwise_namedPlaces (n : Node) : (namedPlaces n).Pairwise fun a b => a.2 < b.2 := by
  apply List.Pairwise.filter
  rw [← List.pairwise_map, List.zipIdx_map_snd]
  exact List.pairwise_lt_range'

/-! ## Labelled children -/

/-- The child that a label names, with its number: the first one with that label. -/
def LabelledAt (label : String) (n : Node) (i : Nat) (c : Node) : Prop :=
  n.children[i]? = some c ∧ c.info.label = some label ∧
    ∀ j < i, ∀ c, n.children[j]? = some c → c.info.label ≠ some label

/-- The child that a label names, with its number. -/
def labelledPlace? (label : String) (n : Node) : Option (Node × Nat) :=
  n.children.zipIdx.find? (·.1.info.label == some label)

theorem map_fst_labelledPlace? (label : String) (n : Node) :
    (labelledPlace? label n).map (·.1) = n.labelled? label := by
  rw [Node.labelled?, Node.labelled, List.head?_filter, ← List.zipIdx_map_fst 0 n.children,
    List.find?_map]
  rfl

theorem labelledPlace?_eq_some_iff {label : String} {n c : Node} {i : Nat} :
    labelledPlace? label n = some (c, i) ↔ LabelledAt label n i c := by
  rw [labelledPlace?, List.find?_eq_some_iff_getElem]
  constructor
  · rintro ⟨hb, k, hk, hat, hfirst⟩
    rw [List.getElem_zipIdx, Nat.zero_add, Prod.mk.injEq] at hat
    obtain ⟨hat, rfl⟩ := hat
    refine ⟨List.getElem?_eq_some_iff.mpr ⟨by simpa using hk, hat⟩, by simpa using hb, ?_⟩
    intro j hj c hc hlabel
    have hjn : j < n.children.length := (List.getElem?_eq_some_iff.mp hc).1
    have hcj : n.children[j] = c := (List.getElem?_eq_some_iff.mp hc).2
    have hne := hfirst j hj
    rw [List.getElem_zipIdx, hcj] at hne
    simp [hlabel] at hne
  · rintro ⟨hat, hlabel, hfirst⟩
    obtain ⟨hi, hat⟩ := List.getElem?_eq_some_iff.mp hat
    refine ⟨by simp [hlabel], i, by simpa using hi, by simp [hat], ?_⟩
    intro j hj
    have hne := hfirst j hj _ (List.getElem?_eq_getElem (by omega))
    simpa using hne

/-- A label names at most one child. -/
theorem LabelledAt.unique {label : String} {n c c' : Node} {i i' : Nat}
    (h : LabelledAt label n i c) (h' : LabelledAt label n i' c') : i = i' ∧ c = c' := by
  rw [← labelledPlace?_eq_some_iff] at h h'
  rw [h, Option.some.injEq, Prod.mk.injEq] at h'
  exact ⟨h'.2, h'.1⟩

/-! ## Bodies -/

/-- The body, with its number: the first child with that label. -/
def BodyAt (n : Node) (i : Nat) (b : Node) : Prop := LabelledAt "body" n i b

/-- The body with its number. -/
def bodyPlace? (n : Node) : Option (Node × Nat) := labelledPlace? "body" n

theorem map_fst_bodyPlace? (n : Node) : (bodyPlace? n).map (·.1) = n.labelled? "body" :=
  map_fst_labelledPlace? "body" n

theorem bodyPlace?_eq_some_iff {n b : Node} {i : Nat} :
    bodyPlace? n = some (b, i) ↔ BodyAt n i b :=
  labelledPlace?_eq_some_iff

/-! ## Members -/

/-- A node that may declare a member of a type: a named child of the body of a class or an interface, or of a
declaration part in the body of an enum. -/
inductive MemberAt (d : Node) : Place → Node → Prop where
  | body {i j : Nat} {b c : Node} (hd : d.kind ≠ "enum_declaration") (hb : BodyAt d i b)
      (hc : NamedAt b j c) : MemberAt d [i, j] c
  | enumBody {i j k : Nat} {b e c : Node} (hd : d.kind = "enum_declaration") (hb : BodyAt d i b)
      (he : NamedAt b j e) (hkind : e.kind = "enum_body_declarations") (hc : NamedAt e k c) :
      MemberAt d [i, j, k] c

/-- The nodes that may declare members, with their places. -/
def memberPlaces (d : Node) : List (Node × Place) :=
  match bodyPlace? d with
  | none => []
  | some (b, i) =>
    if d.kind = "enum_declaration" then
      ((namedPlaces b).filter (·.1.kind == "enum_body_declarations")).flatMap fun e =>
        (namedPlaces e.1).map fun c => (c.1, [i, e.2, c.2])
    else (namedPlaces b).map fun c => (c.1, [i, c.2])

theorem map_fst_memberPlaces {h : Host} {d : Node} (henum : h = .enum ↔ d.kind = "enum_declaration") :
    (memberPlaces d).map (·.1) = memberNodes h d := by
  unfold memberPlaces memberNodes
  rw [← map_fst_bodyPlace?]
  cases bodyPlace? d with
  | none => rfl
  | some p =>
    obtain ⟨b, i⟩ := p
    simp only [Option.map_some, henum]
    split
    · rw [List.map_flatMap, ← map_fst_namedPlaces b, List.filter_map, List.flatMap_map]
      simp only [List.map_map, ← map_fst_namedPlaces]
      rfl
    · rw [List.map_map, ← map_fst_namedPlaces]
      rfl

theorem mem_memberPlaces {d c : Node} {p : Place} :
    (c, p) ∈ memberPlaces d ↔ MemberAt d p c := by
  unfold memberPlaces
  constructor
  · intro h
    split at h
    · simp at h
    · next b i hb =>
      have hbody : BodyAt d i b := bodyPlace?_eq_some_iff.mp hb
      split at h
      · next hd =>
        obtain ⟨⟨e, j⟩, hpart, hmem⟩ := List.mem_flatMap.mp h
        obtain ⟨⟨c', k⟩, hc, heq⟩ := List.mem_map.mp hmem
        obtain ⟨he, hkind⟩ := List.mem_filter.mp hpart
        obtain ⟨rfl, rfl⟩ := Prod.mk.inj heq
        exact .enumBody hd hbody (mem_namedPlaces.mp he) (by simpa using hkind)
          (mem_namedPlaces.mp hc)
      · next hd =>
        obtain ⟨⟨c', j⟩, hc, heq⟩ := List.mem_map.mp h
        obtain ⟨rfl, rfl⟩ := Prod.mk.inj heq
        exact .body hd hbody (mem_namedPlaces.mp hc)
  · intro h
    cases h with
    | @body i j b _ hd hb hc =>
      rw [bodyPlace?_eq_some_iff.mpr hb]
      simp only [if_neg hd]
      exact List.mem_map.mpr ⟨(c, j), mem_namedPlaces.mpr hc, rfl⟩
    | @enumBody i j k b e _ hd hb he hkind hc =>
      rw [bodyPlace?_eq_some_iff.mpr hb]
      simp only [if_pos hd]
      have he : (e, j) ∈ (namedPlaces b).filter (·.1.kind == "enum_body_declarations") :=
        List.mem_filter.mpr ⟨mem_namedPlaces.mpr he, by simpa using hkind⟩
      exact List.mem_flatMap.mpr
        ⟨(e, j), he, List.mem_map.mpr ⟨(c, k), mem_namedPlaces.mpr hc, rfl⟩⟩

/-- Members stand side by side, in the order of their places. -/
theorem pairwise_memberPlaces (d : Node) :
    (memberPlaces d).Pairwise fun a b => LeftOf a.2 b.2 := by
  unfold memberPlaces
  split
  · exact .nil
  · next b i hb =>
    split
    · rw [List.pairwise_flatMap]
      constructor
      · intro e he
        rw [List.pairwise_map]
        refine (pairwise_namedPlaces e.1).imp fun hlt => ?_
        exact ⟨[i, e.2], _, _, [], [], rfl, rfl, hlt⟩
      · refine ((pairwise_namedPlaces b).filter _).imp fun {e e'} hlt => ?_
        intro x hx y hy
        obtain ⟨c, -, rfl⟩ := List.mem_map.mp hx
        obtain ⟨c', -, rfl⟩ := List.mem_map.mp hy
        exact ⟨[i], _, _, [c.2], [c'.2], rfl, rfl, hlt⟩
    · rw [List.pairwise_map]
      refine (pairwise_namedPlaces b).imp fun hlt => ?_
      exact ⟨[i], _, _, [], [], rfl, rfl, hlt⟩

theorem sizeOf_lt_of_mem_memberPlaces {d : Node} {c : Node × Place} (hc : c ∈ memberPlaces d) :
    sizeOf c.1 < sizeOf d := by
  have hmem : c.1 ∈ (memberPlaces d).map (·.1) := List.mem_map_of_mem hc
  by_cases hd : d.kind = "enum_declaration"
  · rw [map_fst_memberPlaces (h := .enum) (by simp [hd])] at hmem
    exact sizeOf_lt_of_mem_memberNodes hmem
  · rw [map_fst_memberPlaces (h := .ordinary) (by simp [hd])] at hmem
    exact sizeOf_lt_of_mem_memberNodes hmem

theorem ne_nil_of_memberAt {d c : Node} {p : Place} (h : MemberAt d p c) : p ≠ [] := by
  cases h <;> simp

end TypeCensus.Java
