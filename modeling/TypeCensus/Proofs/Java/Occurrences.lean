import TypeCensus.Proofs.Java.Places

/-!
# Occurrences — the declarations of a source

A declaration occurs at the top of a source or as a member of a declaration that occurs.  Its occurrence holds its
place and the declarations that enclose it.

* `mem_occurrences`: the listed occurrences are those that the relation `Declares` describes.
* `pairwise_occurrences`: they are listed in pre-order, each once.
-/

namespace TypeCensus.Java

open TypeCensus.Syntax (Node)

/-! ## Occurrences -/

/-- A node that declares a class, an interface or an enum, and has a name. -/
def IsDeclaration (n : Node) : Prop :=
  n.kind ∈ ["class_declaration", "interface_declaration", "enum_declaration"] ∧ n.name?.isSome

/-- A declaration, its place and the declarations around it, the outermost first. -/
structure Occurrence where
  place : Place
  outer : List Node
  node : Node

/-- An occurrence seen from a declaration around it. -/
def Occurrence.within (d : Node) (p : Place) (o : Occurrence) : Occurrence where
  place := p ++ o.place
  outer := d :: o.outer
  node := o.node

/-- A declaration declares itself and, to any depth, the declarations among its members. -/
inductive Declares : Node → Occurrence → Prop where
  | self {d : Node} (hd : IsDeclaration d) : Declares d ⟨[], [], d⟩
  | member {d c : Node} {p : Place} {o : Occurrence} (hd : IsDeclaration d) (hm : MemberAt d p c)
      (ho : Declares c o) : Declares d (o.within d p)

/-- A source declares what its named children declare. -/
inductive DeclaresTop (root : Node) : Occurrence → Prop where
  | child {i : Nat} {n : Node} {o : Occurrence} (hn : NamedAt root i n) (ho : Declares n o) :
      DeclaresTop root { o with place := i :: o.place }

instance (n : Node) : Decidable (IsDeclaration n) := inferInstanceAs (Decidable (_ ∧ _))

/-- The occurrences of the declarations in a node, seen from the node. -/
def occurrencesIn (n : Node) : List Occurrence :=
  if IsDeclaration n then
    ⟨[], [], n⟩ ::
      (memberPlaces n).attach.flatMap fun ⟨c, _⟩ => (occurrencesIn c.1).map (.within n c.2)
  else []
termination_by sizeOf n
decreasing_by exact sizeOf_lt_of_mem_memberPlaces ‹_›

/-- The occurrences of the declarations of a source. -/
def occurrences (root : Node) : List Occurrence :=
  (namedPlaces root).flatMap fun c =>
    (occurrencesIn c.1).map fun o => { o with place := c.2 :: o.place }

theorem occurrencesIn_of_isDeclaration {n : Node} (h : IsDeclaration n) :
    occurrencesIn n = ⟨[], [], n⟩ ::
      (memberPlaces n).flatMap fun c => (occurrencesIn c.1).map (.within n c.2) := by
  rw [occurrencesIn, if_pos h]
  conv_rhs => rw [← List.attach_map_subtype_val (memberPlaces n), List.flatMap_map]

theorem occurrencesIn_of_not_isDeclaration {n : Node} (h : ¬ IsDeclaration n) :
    occurrencesIn n = [] := by
  rw [occurrencesIn, if_neg h]

theorem mem_occurrencesIn {n : Node} {o : Occurrence} : o ∈ occurrencesIn n ↔ Declares n o := by
  constructor
  · intro ho
    induction n using occurrencesIn.induct generalizing o with
    | case1 n hn ih =>
      rw [occurrencesIn_of_isDeclaration hn] at ho
      obtain rfl | ho := List.mem_cons.mp ho
      · exact .self hn
      · obtain ⟨⟨c, p⟩, hc, ho⟩ := List.mem_flatMap.mp ho
        obtain ⟨o, hin, rfl⟩ := List.mem_map.mp ho
        exact .member hn (mem_memberPlaces.mp hc) (ih (c, p) hc hin)
    | case2 n hn =>
      rw [occurrencesIn_of_not_isDeclaration hn] at ho
      simp at ho
  · intro ho
    induction ho with
    | self hd =>
      rw [occurrencesIn_of_isDeclaration hd]
      exact List.mem_cons_self
    | @member d c p o hd hm _ ih =>
      rw [occurrencesIn_of_isDeclaration hd]
      refine List.mem_cons_of_mem _ (List.mem_flatMap.mpr ⟨(c, p), mem_memberPlaces.mpr hm, ?_⟩)
      exact List.mem_map.mpr ⟨o, ih, rfl⟩

/-- Declarations are listed in pre-order. -/
theorem pairwise_occurrencesIn (n : Node) :
    (occurrencesIn n).Pairwise fun o o' => Precedes o.place o'.place := by
  induction n using occurrencesIn.induct with
  | case1 n hn ih =>
    rw [occurrencesIn_of_isDeclaration hn, List.pairwise_cons]
    constructor
    · intro o ho
      obtain ⟨⟨c, p⟩, hc, ho⟩ := List.mem_flatMap.mp ho
      obtain ⟨o, -, rfl⟩ := List.mem_map.mp ho
      exact precedes_of_above (by simp [Occurrence.within, ne_nil_of_memberAt (mem_memberPlaces.mp hc)])
    · rw [List.pairwise_flatMap]
      constructor
      · intro c hc
        rw [List.pairwise_map]
        exact (ih c hc).imp fun h => h.append_left c.2
      · refine (pairwise_memberPlaces n).imp fun hleft x hx y hy => ?_
        obtain ⟨o, -, rfl⟩ := List.mem_map.mp hx
        obtain ⟨o', -, rfl⟩ := List.mem_map.mp hy
        exact hleft.precedes o.place o'.place
  | case2 n hn =>
    rw [occurrencesIn_of_not_isDeclaration hn]
    exact .nil

/-! ## The occurrences of a source -/

theorem mem_occurrences {root : Node} {o : Occurrence} :
    o ∈ occurrences root ↔ DeclaresTop root o := by
  unfold occurrences
  constructor
  · intro ho
    obtain ⟨⟨c, i⟩, hc, ho⟩ := List.mem_flatMap.mp ho
    obtain ⟨o, hin, rfl⟩ := List.mem_map.mp ho
    exact .child (mem_namedPlaces.mp hc) (mem_occurrencesIn.mp hin)
  · rintro ⟨hn, ho⟩
    exact List.mem_flatMap.mpr
      ⟨_, mem_namedPlaces.mpr hn, List.mem_map.mpr ⟨_, mem_occurrencesIn.mpr ho, rfl⟩⟩

theorem pairwise_occurrences (root : Node) :
    (occurrences root).Pairwise fun o o' => Precedes o.place o'.place := by
  unfold occurrences
  rw [List.pairwise_flatMap]
  constructor
  · intro c _
    rw [List.pairwise_map]
    exact (pairwise_occurrencesIn c.1).imp fun h => h.append_left [c.2]
  · refine (pairwise_namedPlaces root).imp fun hlt x hx y hy => ?_
    obtain ⟨o, -, rfl⟩ := List.mem_map.mp hx
    obtain ⟨o', -, rfl⟩ := List.mem_map.mp hy
    exact .rel hlt

end TypeCensus.Java
