import TypeCensus.Proofs.Java.Occurrences
import TypeCensus.Proofs.Pairing

/-!
# Preorder — the extracted types, in order

The types of a source are the declarations that occur in it, one for one and in pre-order, each qualified by the
package and by the declarations around it.

* `qualifies_package`, `Qualifies.snoc`: what a qualifier stands for, at the top and one declaration deeper.
* `forall₂_types`: every type of a source is the declaration at its occurrence.
* `types_in_preorder`: the types of a source are its declarations, each once and in pre-order.
-/

namespace TypeCensus.Java

open TypeCensus.Syntax (Node)

/-! ## Qualified names -/

/-- The text of a node's name. -/
def nameText (n : Node) : String := n.name?.getD ""

/-- Names from the outside in, and an own name, joined by dots. Empty names before the first other one are left out:
that is how an empty package counts as none. -/
def dotted (outer : List String) (name : String) : String :=
  ".".intercalate (outer.dropWhile (· == "") ++ [name])

/-- A qualifier stands for some names. -/
def Qualifies (q : Option String) (outer : List String) : Prop :=
  ∀ name, qualify q name = dotted outer name

theorem qualifies_package (package : Option String) : Qualifies package package.toList := by
  intro name
  cases package with
  | none => simp [qualify, dotted]
  | some p => by_cases hp : p = "" <;> simp [qualify, dotted, hp]

theorem join_ne_empty {x : String} (hx : x ≠ "") (xs : List String) (name : String) :
    ".".intercalate (x :: xs ++ [name]) ≠ "" := by
  rw [List.cons_append, String.intercalate_cons_of_ne_nil (by simp)]
  simp [hx]

/-- Where a name is joined to some names, they are joined before it. -/
theorem dotted_snoc (outer : List String) (name own : String) :
    dotted (outer ++ [name]) own = qualify (some (dotted outer name)) own := by
  unfold dotted
  rw [List.dropWhile_append]
  cases hdrop : outer.dropWhile (· == "") with
  | nil => by_cases hname : name = "" <;> simp [qualify, hname]
  | cons x xs =>
    have hx : x ≠ "" := by
      have := List.head_dropWhile_not (l := outer) (· == "") (by simp [hdrop])
      simpa [hdrop] using this
    have hne := join_ne_empty hx xs name
    have hnil : x :: xs ++ [name] ≠ [] := by simp
    rw [if_neg (by simp), String.intercalate_append_of_ne_nil hnil (by simp),
      String.intercalate_singleton]
    simp only [qualify, String.isEmpty_iff, if_neg hne]

theorem Qualifies.snoc {q : Option String} {outer : List String} (h : Qualifies q outer)
    (name : String) : Qualifies (some (qualify q name)) (outer ++ [name]) := by
  intro own
  rw [h name, dotted_snoc]

/-! ## The type at an occurrence -/

/-- A type is the declaration at an occurrence, under the names around it. -/
def IsTypeAt (outer : List String) (o : Occurrence) (t : TypeDecl) : Prop :=
  ∃ h name q, hostOf? o.node = some h ∧ o.node.name? = some name ∧
    Qualifies q (outer ++ o.outer.map nameText) ∧ t = declaration h name q o.node

theorem hostOf?_eq_enum_iff {n : Node} : hostOf? n = some .enum ↔ n.kind = "enum_declaration" := by
  unfold hostOf?
  split <;> simp_all

theorem eq_enum_iff {n : Node} {h : Host} (hh : hostOf? n = some h) : h = .enum ↔ n.kind = "enum_declaration" := by
  rw [← hostOf?_eq_enum_iff, hh, Option.some.injEq]

theorem isDeclaration_iff {n : Node} :
    IsDeclaration n ↔ ∃ h name, hostOf? n = some h ∧ n.name? = some name := by
  have hkind : n.kind ∈ ["class_declaration", "interface_declaration", "enum_declaration"] ↔
      ∃ h, hostOf? n = some h := by
    unfold hostOf?
    split <;> simp_all
  rw [IsDeclaration, hkind, Option.isSome_iff_exists]
  simp only [exists_and_left, exists_and_right]

theorem typesOf_of_declares {n : Node} {h : Host} {name : String} (hh : hostOf? n = some h)
    (hname : n.name? = some name) (q : Option String) :
    typesOf q n = declaration h name q n ::
      (memberNodes h n).flatMap (typesOf (some (qualify q name))) := by
  rw [typesOf]
  simp only [hh, hname]
  conv_rhs => rw [← List.attach_map_subtype_val (memberNodes h n), List.flatMap_map]

theorem typesOf_of_not_isDeclaration {n : Node} (hn : ¬ IsDeclaration n) (q : Option String) :
    typesOf q n = [] := by
  rw [typesOf]
  split
  · next h name hh hname => exact absurd (isDeclaration_iff.mpr ⟨h, name, hh, hname⟩) hn
  · rfl

theorem IsTypeAt.within {outer : List String} {d : Node} {name : String} {o : Occurrence}
    {t : TypeDecl} (ht : IsTypeAt (outer ++ [name]) o t) (hname : d.name? = some name) (p : Place) :
    IsTypeAt outer (o.within d p) t := by
  obtain ⟨h, own, q, hh, hown, hq, rfl⟩ := ht
  refine ⟨h, own, q, hh, hown, ?_, rfl⟩
  simpa [Occurrence.within, nameText, hname] using hq

/-- The types in a node are those at the occurrences in it, one for one. -/
theorem forall₂_typesOf {q : Option String} {outer : List String} (hq : Qualifies q outer)
    (n : Node) : List.Forall₂ (IsTypeAt outer) (occurrencesIn n) (typesOf q n) := by
  induction n using occurrencesIn.induct generalizing q outer with
  | case1 n hn ih =>
    obtain ⟨h, name, hh, hname⟩ := isDeclaration_iff.mp hn
    rw [occurrencesIn_of_isDeclaration hn, typesOf_of_declares hh hname]
    refine .cons ⟨h, name, q, hh, hname, by simpa using hq, rfl⟩ ?_
    rw [← map_fst_memberPlaces (eq_enum_iff hh), List.flatMap_map]
    refine forall₂_flatMap fun c hc => ?_
    rw [List.forall₂_map_left_iff]
    exact (ih c hc (hq.snoc name)).imp fun _ _ ht => ht.within hname c.2
  | case2 n hn =>
    rw [occurrencesIn_of_not_isDeclaration hn, typesOf_of_not_isDeclaration hn]
    exact .nil

/-- The types of a source are those at the occurrences in it, one for one. -/
theorem forall₂_types (root : Node) (package : Option String) :
    List.Forall₂ (IsTypeAt package.toList) (occurrences root) (types root package) := by
  unfold occurrences types
  rw [← map_fst_namedPlaces, List.flatMap_map]
  refine forall₂_flatMap fun c _ => ?_
  rw [List.forall₂_map_left_iff]
  exact forall₂_typesOf (qualifies_package package) c.1

/-! ## What a type says about its declaration -/

/-- The kind of node that declares a type. -/
def nodeKind : TypeDecl → String
  | .classLike .ordinary _ => "class_declaration"
  | .classLike .interface _ => "interface_declaration"
  | .enumeration _ _ => "enum_declaration"

/-- A type has the kind and the name of a declaration, and is qualified by the package and by the names around the
declaration, from the outside in. -/
structure Describes (package : Option String) (o : Occurrence) (t : TypeDecl) : Prop where
  kind : nodeKind t = o.node.kind
  name : o.node.name? = some t.members.name
  qualifiedName : t.qualifiedName = dotted (package.toList ++ o.outer.map nameText) t.members.name
  /-- Only names that are empty are ever left out. -/
  qualifiedName_of_ne_empty : (∀ d ∈ o.outer, nameText d ≠ "") →
    t.qualifiedName = ".".intercalate
      ((package.filter (· ≠ "")).toList ++ o.outer.map nameText ++ [t.members.name])

theorem nodeKind_declaration {n : Node} {h : Host} (hh : hostOf? n = some h) (name : String)
    (q : Option String) : nodeKind (declaration h name q n) = n.kind := by
  unfold hostOf? at hh
  split at hh
  all_goals simp at hh
  all_goals subst hh; simp_all [declaration, nodeKind]

theorem name_declaration (h : Host) (name : String) (q : Option String) (n : Node) :
    (declaration h name q n).members.name = name := by
  cases h <;> rfl

theorem qualifiedName_declaration (h : Host) (name : String) (q : Option String) (n : Node) :
    (declaration h name q n).qualifiedName = qualify q name := by
  cases h <;> rfl

theorem dotted_eq_of_ne_empty {outer : List String} (houter : ∀ x ∈ outer, x ≠ "")
    (package : Option String) (name : String) :
    dotted (package.toList ++ outer) name =
      ".".intercalate ((package.filter (· ≠ "")).toList ++ outer ++ [name]) := by
  have hkept : outer.dropWhile (· == "") = outer := by
    cases outer with
    | nil => rfl
    | cons x xs =>
      have hx : x ≠ "" := houter x List.mem_cons_self
      rw [List.dropWhile_cons_of_neg (by simpa using hx)]
  unfold dotted
  cases package with
  | none => simp [hkept]
  | some p => by_cases hp : p = "" <;> simp [Option.filter, hp, hkept]

theorem IsTypeAt.describes {package : Option String} {o : Occurrence} {t : TypeDecl}
    (ht : IsTypeAt package.toList o t) : Describes package o t := by
  obtain ⟨h, name, q, hh, hname, hq, rfl⟩ := ht
  have hqualified : (declaration h name q o.node).qualifiedName =
      dotted (package.toList ++ o.outer.map nameText) (declaration h name q o.node).members.name := by
    rw [qualifiedName_declaration, hq, name_declaration]
  refine ⟨nodeKind_declaration hh name q, ?_, hqualified, fun houter => ?_⟩
  · rw [hname, name_declaration]
  · rw [hqualified, dotted_eq_of_ne_empty (by simpa using houter)]

/-- **Pre-order.**  The types of a source are its declarations, each once and in pre-order. -/
theorem types_in_preorder (root : Node) (package : Option String) :
    ∃ os : List Occurrence,
      os.Pairwise (fun o o' => Precedes o.place o'.place) ∧
      (∀ o, o ∈ os ↔ DeclaresTop root o) ∧
      List.Forall₂ (Describes package) os (types root package) := by
  refine ⟨occurrences root, pairwise_occurrences root, fun o => mem_occurrences, ?_⟩
  exact (forall₂_types root package).imp fun _ _ ht => ht.describes

/-- A node with a name, and its body. -/
def bodied (kind name : String) (members : List Node) : Node :=
  .mk { kind, named := true }
    [.mk { kind := "identifier", named := true, label := some "name", text := name } [],
      .mk { kind := kind ++ "_body", named := true, label := some "body" } members]

/-- A class with a class in a method, which is none of its members, and an interface in an enum. -/
def sampleSource : Node :=
  .mk { kind := "program", named := true }
    [bodied "class_declaration" "A"
        [bodied "method_declaration" "m" [bodied "class_declaration" "Local" []],
          bodied "enum_declaration" "E"
            [.mk { kind := "enum_body_declarations", named := true }
              [bodied "interface_declaration" "I" []]]],
      bodied "class_declaration" "B" []]

example : (types sampleSource (some "p")).map (·.qualifiedName) = ["p.A", "p.A.E", "p.A.E.I", "p.B"] := by
  decide +kernel

end TypeCensus.Java
