import TypeCensus.Proofs.Java.Ownership

/-!
# Access — who may use the members of a type

The keywords right in the modifiers of a member count, and no others: of several access keywords the last one does.  A
member without one takes what the declaration says in whose body it stands.  That is the innermost one around it.

* `visibility_foldl_cases`, `visibility_foldl_last`: what a run of keywords says about access.
* `visibility_ofNode_of_silent`, `visibility_ofNode_of_names`, `isStatic_ofNode_iff`: what is read off the modifiers.
* `ownRules_declaration`, `implied_declaration`: the type that a declaration is read as follows the rules of its kind.
* `innermost_of_memberAt`: no other declaration comes between a declaration and its members.
* `modifiers_by_own_declaration`: all types of a source.
-/

namespace TypeCensus.Java

open TypeCensus.Syntax (Node)

/-! ## Keywords -/

/-- The access that a keyword gives. -/
inductive Grants : String → Visibility → Prop
  | publicly : Grants "public" .publicly
  | protectedly : Grants "protected" .protectedly
  | privately : Grants "private" .privately

/-- The modifiers of a member: its first named child of that kind. -/
def ModifiersOf (n m : Node) : Prop :=
  m.kind = "modifiers" ∧ ∃ before after, n.namedChildren = before ++ m :: after ∧
    ∀ c ∈ before, c.kind ≠ "modifiers"

/-- No access keyword stands right in the modifiers of a member. -/
def Silent (n : Node) : Prop :=
  ∀ m, ModifiersOf n m → ∀ c ∈ m.children, ∀ v, ¬ Grants c.kind v

/-- An access keyword stands right in the modifiers of a member, and no other one after it. -/
def Names (n : Node) (v : Visibility) : Prop :=
  ∃ m before c after, ModifiersOf n m ∧ m.children = before ++ c :: after ∧ Grants c.kind v ∧
    ∀ c' ∈ after, ∀ v', ¬ Grants c'.kind v'

/-- The keyword `static` stands right in the modifiers of a member. -/
def SaysStatic (n : Node) : Prop := ∃ m, ModifiersOf n m ∧ ∃ c ∈ m.children, c.kind = "static"

/-! ## Rules -/

/-- The access to the members of a declaration that name none. -/
def unspoken (d : Node) : Visibility :=
  if d.kind = "interface_declaration" then .publicly else .package

/-- A member of a declaration has the access that its modifiers name, or else the one that the declaration gives. -/
structure HasAccess (d c : Node) (v : Visibility) : Prop where
  silent : Silent c → v = unspoken d
  spoken : ∀ v', Names c v' → v = v'

/-- Constructors of an enum are private, whatever they say. -/
structure FollowsConstructor (d c : Node) (x : Constructor) : Prop where
  inEnum : d.kind = "enum_declaration" → x.visibility = .privately
  elsewhere : d.kind ≠ "enum_declaration" → HasAccess d c x.visibility

/-- A method is static if it says so. -/
structure FollowsMethod (d c : Node) (x : Method) : Prop where
  access : HasAccess d c x.visibility
  isStatic_iff : x.isStatic = true ↔ SaysStatic c

/-- Fields of an interface are static, others if they say so. -/
structure FollowsField (d c : Node) (x : Field) : Prop where
  access : HasAccess d c x.visibility
  isStatic_iff : x.isStatic = true ↔ d.kind = "interface_declaration" ∨ SaysStatic c

/-- The members of a type follow the rules of a declaration. -/
structure OwnRules (d : Node) (t : TypeDecl) : Prop where
  constructors : OneEach (ConstructorAt d) (FollowsConstructor d) t.members.constructors
  methods : OneEach (MethodAt d) (FollowsMethod d) t.members.methods
  fields : ∃ groups,
    OneEach (FieldsAt d) (fun c fs => DescribesFields c fs ∧ ∀ f ∈ fs, FollowsField d c f) groups ∧
      t.members.fields = groups.flatten

/-- What the kind of a type implies for all its members. -/
structure Implied (t : TypeDecl) : Prop where
  enumConstructors : ∀ entries ms, t = .enumeration entries ms →
    ∀ c ∈ ms.constructors, c.visibility = .privately
  interfaceFields : ∀ ms, t = .classLike .interface ms →
    ∀ f ∈ ms.fields, f.isStatic = true ∧ f.visibility ≠ .package
  interfaceMethods : ∀ ms, t = .classLike .interface ms → ∀ m ∈ ms.methods, m.visibility ≠ .package

/-! ## Runs of keywords -/

section Keywords

variable {k : String} {ks : List String} {v : Visibility}

theorem visibilityOf?_eq_some_iff : Modifiers.visibilityOf? k = some v ↔ Grants k v := by
  constructor
  · intro h
    unfold Modifiers.visibilityOf? at h
    split at h
    · exact Option.some.inj h ▸ .publicly
    · exact Option.some.inj h ▸ .protectedly
    · exact Option.some.inj h ▸ .privately
    · simp at h
  · rintro (_ | _ | _) <;> rfl

theorem Grants.ne_package (h : Grants k v) : v ≠ .package := by
  cases h <;> simp

/-- A keyword that grants no access changes none. -/
theorem visibility_add_of_silent (hk : ∀ v, ¬ Grants k v) (m : Modifiers) :
    (m.add k).visibility = m.visibility := by
  cases hv : Modifiers.visibilityOf? k with
  | none => simp [Modifiers.add, hv]
  | some v => exact absurd (visibilityOf?_eq_some_iff.mp hv) (hk v)

theorem visibility_add_of_grants (hk : Grants k v) (m : Modifiers) : (m.add k).visibility = some v := by
  simp [Modifiers.add, visibilityOf?_eq_some_iff.mpr hk]

theorem visibility_foldl_of_silent (h : ∀ k ∈ ks, ∀ v, ¬ Grants k v) (m : Modifiers) :
    (ks.foldl Modifiers.add m).visibility = m.visibility := by
  induction ks generalizing m with
  | nil => rfl
  | cons k ks ih =>
    rw [List.foldl_cons, ih fun k' hk' => h k' (List.mem_cons_of_mem k hk'),
      visibility_add_of_silent (h k List.mem_cons_self)]

/-- Of several access keywords the last one counts. -/
theorem visibility_foldl_last {before after : List String} (hk : Grants k v)
    (hafter : ∀ k' ∈ after, ∀ v', ¬ Grants k' v') (m : Modifiers) :
    ((before ++ k :: after).foldl Modifiers.add m).visibility = some v := by
  rw [List.foldl_append, List.foldl_cons, visibility_foldl_of_silent hafter, visibility_add_of_grants hk]

/-- Whatever access comes out, some keyword has granted it, if it was not there before. -/
theorem visibility_foldl_cases {m : Modifiers} (h : (ks.foldl Modifiers.add m).visibility = some v) :
    m.visibility = some v ∨ ∃ k ∈ ks, Grants k v := by
  induction ks generalizing m with
  | nil => exact .inl h
  | cons k ks ih =>
    rw [List.foldl_cons] at h
    rcases ih h with hadd | ⟨k', hk', hgrants⟩
    · by_cases hk : ∃ v', Grants k v'
      · obtain ⟨v', hv'⟩ := hk
        have hsame : some v' = some v := (visibility_add_of_grants hv' m).symm.trans hadd
        obtain rfl := Option.some.inj hsame
        exact .inr ⟨k, List.mem_cons_self, hv'⟩
      · rw [visibility_add_of_silent (not_exists.mp hk)] at hadd
        exact .inl hadd
    · exact .inr ⟨k', List.mem_cons_of_mem k hk', hgrants⟩

theorem isStatic_foldl_iff {m : Modifiers} :
    (ks.foldl Modifiers.add m).isStatic = true ↔ m.isStatic = true ∨ "static" ∈ ks := by
  induction ks generalizing m with
  | nil => simp
  | cons k ks ih =>
    have hadd : (m.add k).isStatic = true ↔ m.isStatic = true ∨ k = "static" := by
      simp [Modifiers.add]
    rw [List.foldl_cons, ih, hadd, List.mem_cons, or_assoc, eq_comm (a := k)]

end Keywords

/-! ## Modifiers of a node -/

section Modifiers

variable {n : Node} {v : Visibility}

theorem find?_modifiers_eq_some_iff {m : Node} :
    n.namedChildren.find? (·.kind == "modifiers") = some m ↔ ModifiersOf n m := by
  rw [List.find?_eq_some_iff_append]
  simp [ModifiersOf]

/-- The modifiers of a node, if there are any, are read keyword by keyword. -/
theorem ofNode_cases (n : Node) :
    (∃ m, ModifiersOf n m ∧ Modifiers.ofNode n = (m.children.map (·.kind)).foldl Modifiers.add {}) ∨
      (∀ m, ¬ ModifiersOf n m) ∧ Modifiers.ofNode n = {} := by
  unfold Modifiers.ofNode
  cases hfind : n.namedChildren.find? (·.kind == "modifiers") with
  | some m => exact .inl ⟨m, find?_modifiers_eq_some_iff.mp hfind, rfl⟩
  | none =>
    refine .inr ⟨fun m hm => ?_, rfl⟩
    rw [find?_modifiers_eq_some_iff.mpr hm] at hfind
    simp at hfind

theorem ModifiersOf.unique {m m' : Node} (h : ModifiersOf n m) (h' : ModifiersOf n m') : m = m' :=
  Option.some.inj ((find?_modifiers_eq_some_iff.mpr h).symm.trans (find?_modifiers_eq_some_iff.mpr h'))

theorem visibility_ofNode_of_silent (h : Silent n) : (Modifiers.ofNode n).visibility = none := by
  obtain ⟨m, hm, heq⟩ | ⟨-, heq⟩ := ofNode_cases n
  · rw [heq, visibility_foldl_of_silent]
    intro k hk
    obtain ⟨c, hc, rfl⟩ := List.mem_map.mp hk
    exact h m hm c hc
  · rw [heq]

theorem visibility_ofNode_of_names (h : Names n v) : (Modifiers.ofNode n).visibility = some v := by
  obtain ⟨m, before, c, after, hm, hchildren, hc, hafter⟩ := h
  obtain ⟨m', hm', heq⟩ | ⟨hnone, -⟩ := ofNode_cases n
  · obtain rfl := hm.unique hm'
    rw [heq, hchildren, List.map_append, List.map_cons]
    refine visibility_foldl_last hc (fun k hk => ?_) _
    obtain ⟨c', hc', rfl⟩ := List.mem_map.mp hk
    exact hafter c' hc'
  · exact absurd hm (hnone m)

/-- No keyword says that a member is open to its package only. -/
theorem visibility_ofNode_ne_package (n : Node) : (Modifiers.ofNode n).visibility ≠ some .package := by
  intro h
  obtain ⟨m, -, heq⟩ | ⟨-, heq⟩ := ofNode_cases n
  · rw [heq] at h
    rcases visibility_foldl_cases h with hnone | ⟨k, -, hk⟩
    · simp at hnone
    · exact hk.ne_package rfl
  · simp [heq] at h

theorem isStatic_ofNode_iff : (Modifiers.ofNode n).isStatic = true ↔ SaysStatic n := by
  obtain ⟨m, hm, heq⟩ | ⟨hnone, heq⟩ := ofNode_cases n
  · rw [heq, isStatic_foldl_iff]
    simp only [Bool.false_eq_true, false_or, List.mem_map]
    constructor
    · rintro ⟨c, hc, hkind⟩
      exact ⟨m, hm, c, hc, hkind⟩
    · rintro ⟨m', hm', c, hc, hkind⟩
      obtain rfl := hm.unique hm'
      exact ⟨c, hc, hkind⟩
  · rw [heq]
    refine iff_of_false (by simp) ?_
    rintro ⟨m, hm, -⟩
    exact hnone m hm

end Modifiers

/-! ## Members of a declaration -/

section Declaration

variable {h : Host} {d c : Node}

theorem hostOf?_eq_interface_iff : hostOf? d = some .interface ↔ d.kind = "interface_declaration" := by
  unfold hostOf?
  split <;> simp_all

theorem eq_interface_iff (hh : hostOf? d = some h) : h = .interface ↔ d.kind = "interface_declaration" := by
  rw [← hostOf?_eq_interface_iff, hh, Option.some.injEq]

theorem hasAccess_memberVisibility (hh : hostOf? d = some h) (c : Node) :
    HasAccess d c ((Modifiers.ofNode c).memberVisibility h) := by
  constructor
  · intro hsilent
    simp only [Modifiers.memberVisibility, visibility_ofNode_of_silent hsilent, Option.getD_none,
      unspoken, eq_interface_iff hh]
  · intro v hnames
    simp only [Modifiers.memberVisibility, visibility_ofNode_of_names hnames, Option.getD_some]

theorem memberVisibility_interface_ne_package (c : Node) :
    (Modifiers.ofNode c).memberVisibility .interface ≠ .package := by
  have hne := visibility_ofNode_ne_package c
  simp only [Modifiers.memberVisibility]
  cases hv : (Modifiers.ofNode c).visibility with
  | none => simp
  | some v =>
    rintro rfl
    exact hne hv

theorem fieldIsStatic_iff {m : Modifiers} :
    m.fieldIsStatic h = true ↔ h = .interface ∨ m.isStatic = true := by
  have hhost : (h == .interface) = true ↔ h = .interface := by
    cases h <;> decide
  rw [Modifiers.fieldIsStatic, Bool.or_eq_true, or_comm, hhost]

theorem followsConstructor (hh : hostOf? d = some h) {x : Constructor} (hx : constructor? h c = some x) :
    FollowsConstructor d c x := by
  obtain ⟨name, -, rfl⟩ := Option.map_eq_some_iff.mp hx
  have henum := eq_enum_iff hh
  constructor
  · intro hd
    exact if_pos (henum.mpr hd)
  · intro hd
    have hother : h ≠ .enum := mt henum.mp hd
    simp only [Modifiers.constructorVisibility, if_neg hother]
    exact hasAccess_memberVisibility hh c

theorem followsMethod (hh : hostOf? d = some h) {x : Method} (hx : method? h c = some x) :
    FollowsMethod d c x := by
  obtain ⟨name, -, rfl⟩ := Option.map_eq_some_iff.mp hx
  exact ⟨hasAccess_memberVisibility hh c, isStatic_ofNode_iff⟩

theorem modifiers_of_mem_fields {f : Field} (hf : f ∈ fields h c) :
    f.visibility = (Modifiers.ofNode c).memberVisibility h ∧
      f.isStatic = (Modifiers.ofNode c).fieldIsStatic h := by
  obtain ⟨v, -, hv⟩ := List.mem_filterMap.mp hf
  obtain ⟨name, -, rfl⟩ := Option.map_eq_some_iff.mp hv
  exact ⟨rfl, rfl⟩

theorem followsField (hh : hostOf? d = some h) {f : Field} (hf : f ∈ fields h c) : FollowsField d c f := by
  obtain ⟨hvisibility, hstatic⟩ := modifiers_of_mem_fields hf
  constructor
  · rw [hvisibility]
    exact hasAccess_memberVisibility hh c
  · rw [hstatic, fieldIsStatic_iff, isStatic_ofNode_iff, eq_interface_iff hh]

/-- The type that a declaration is read as follows the rules of its own kind. -/
theorem ownRules_declaration (hh : hostOf? d = some h) (name : String) (q : Option String) :
    OwnRules d (declaration h name q d) := by
  have henum := eq_enum_iff hh
  have hconstructors := (oneEach_constructors henum).imp fun _ _ => followsConstructor hh
  have hmethods := (oneEach_methods henum).imp fun _ _ => followsMethod hh
  obtain ⟨groups, heach, hfields⟩ := exists_oneEach_fields henum
  have hgroups : OneEach (FieldsAt d)
      (fun c fs => DescribesFields c fs ∧ ∀ f ∈ fs, FollowsField d c f) groups := by
    refine heach.imp fun c fs hfs => ?_
    rw [← hfs]
    exact ⟨describesFields h c, fun f => followsField hh⟩
  cases h <;> exact ⟨hconstructors, hmethods, groups, hgroups, hfields⟩

/-! ## What holds for all members of a type -/

theorem private_of_mem_constructors {name : String} {q : Option String} {x : Constructor}
    (hx : x ∈ (declaration .enum name q d).members.constructors) : x.visibility = .privately := by
  obtain ⟨c, -, hc⟩ := List.mem_filterMap.mp hx
  obtain ⟨name, -, rfl⟩ := Option.map_eq_some_iff.mp hc
  rfl

theorem static_of_mem_fields {name : String} {q : Option String} {f : Field}
    (hf : f ∈ (declaration .interface name q d).members.fields) :
    f.isStatic = true ∧ f.visibility ≠ .package := by
  obtain ⟨c, -, hc⟩ := List.mem_flatMap.mp hf
  obtain ⟨hvisibility, hstatic⟩ := modifiers_of_mem_fields hc
  rw [hvisibility, hstatic]
  exact ⟨fieldIsStatic_iff.mpr (.inl rfl), memberVisibility_interface_ne_package c⟩

theorem ne_package_of_mem_methods {name : String} {q : Option String} {m : Method}
    (hm : m ∈ (declaration .interface name q d).members.methods) : m.visibility ≠ .package := by
  obtain ⟨c, -, hc⟩ := List.mem_filterMap.mp hm
  obtain ⟨name, -, rfl⟩ := Option.map_eq_some_iff.mp hc
  exact memberVisibility_interface_ne_package c

theorem implied_declaration (h : Host) (d : Node) (name : String) (q : Option String) :
    Implied (declaration h name q d) := by
  constructor
  · intro entries ms ht x hx
    cases h with
    | enum =>
      obtain ⟨-, rfl⟩ := TypeDecl.enumeration.inj ht
      exact private_of_mem_constructors hx
    | ordinary => simp [declaration] at ht
    | interface => simp [declaration] at ht
  · intro ms ht f hf
    cases h with
    | interface =>
      obtain ⟨-, rfl⟩ := TypeDecl.classLike.inj ht
      exact static_of_mem_fields hf
    | ordinary => simp [declaration] at ht
    | enum => simp [declaration] at ht
  · intro ms ht m hm
    cases h with
    | interface =>
      obtain ⟨-, rfl⟩ := TypeDecl.classLike.inj ht
      exact ne_package_of_mem_methods hm
    | ordinary => simp [declaration] at ht
    | enum => simp [declaration] at ht

end Declaration

/-! ## The innermost declaration -/

/-- Of the declarations around a member of a declaration, that one is the innermost. -/
theorem innermost_of_memberAt {root c : Node} {o o' : Occurrence} {p : Place} (ho : DeclaresTop root o)
    (ho' : DeclaresTop root o') (hc : MemberAt o.node p c) (haround : o'.place <+: o.place ++ p)
    (hne : o'.place ≠ o.place ++ p) : o'.place <+: o.place := by
  rcases List.prefix_or_prefix_of_prefix haround (List.prefix_append o.place p) with h | h
  · exact h
  · obtain ⟨r, hr⟩ := h
    -- a declaration further in would lie as deep as the member, at least
    rcases eq_or_reach_le_top ho ho' hr.symm with rfl | hreach
    · exact List.prefix_rfl
    · rw [← hr, List.prefix_append_right_inj] at haround
      have hlength : p.length ≤ r.length := hc.length_eq ▸ hreach
      obtain rfl := haround.eq_of_length_le hlength
      exact absurd hr.symm hne

/-! ## The types of a source -/

theorem IsTypeAt.ownRules {outer : List String} {o : Occurrence} {t : TypeDecl} (ht : IsTypeAt outer o t) :
    (nodeKind t = o.node.kind ∧ OwnRules o.node t) ∧ Implied t := by
  obtain ⟨h, name, q, hh, -, -, rfl⟩ := ht
  exact ⟨⟨nodeKind_declaration hh name q, ownRules_declaration hh name q⟩, implied_declaration h o.node name q⟩

/-- **Access.**  The types of a source are its declarations in pre-order, and the members of each follow the rules of
that declaration: a member has the access that its own modifiers name last, and without any the one that the declaration
gives.  So constructors of enums are private, and in interfaces all fields are static and nothing is open to the package
only.  The declaration of a type is the innermost one around its members. -/
theorem modifiers_by_own_declaration (root : Node) (package : Option String) :
    (∃ os : List Occurrence,
      os.Pairwise (fun o o' => Precedes o.place o'.place) ∧
      (∀ o, o ∈ os ↔ DeclaresTop root o) ∧
      List.Forall₂ (fun o t => nodeKind t = o.node.kind ∧ OwnRules o.node t) os (types root package)) ∧
    (∀ t ∈ types root package, Implied t) ∧
    ∀ o o' p c, DeclaresTop root o → DeclaresTop root o' → MemberAt o.node p c →
      o'.place <+: o.place ++ p → o'.place ≠ o.place ++ p → o'.place <+: o.place := by
  have htypes := forall₂_types root package
  refine ⟨⟨occurrences root, pairwise_occurrences root, fun o => mem_occurrences, ?_⟩, ?_, ?_⟩
  · exact htypes.imp fun _ _ ht => ht.ownRules.1
  · have himplied : List.Forall₂ (fun t o => Implied t ∧ IsTypeAt package.toList o t)
        (types root package) (occurrences root) :=
      (htypes.imp fun _ _ ht => And.intro ht.ownRules.2 ht).flip
    exact ((List.forall₂_and_left _ _).mp himplied).1
  · intro o o' p c ho ho' hc haround hne
    exact innermost_of_memberAt ho ho' hc haround hne

/-- The modifiers of a member. -/
def sampleModifiers (cs : List Node) : Node := .mk { kind := "modifiers", named := true } cs

/-- A keyword. -/
def sampleKeyword (k : String) : Node := .mk { kind := k, named := false } []

/-- A field that is final.  Its annotation says `private`. -/
def sampleFinal : Node :=
  .mk { kind := "field_declaration", named := true }
    [sampleModifiers
        [.mk { kind := "annotation", named := true } [sampleKeyword "private"], sampleKeyword "final"],
      .mk { kind := "variable_declarator", named := true, label := some "declarator" }
        [.mk { kind := "identifier", named := true, label := some "name", text := "x" } []]]

/-- An interface with a field. -/
def sampleInterface : Node := bodied "interface_declaration" "I" [sampleFinal]

/-- A constructor that says `public`, and an interface. -/
def sampleDeclarations : Node :=
  .mk { kind := "enum_body_declarations", named := true }
    [.mk { kind := "constructor_declaration", named := true }
        [sampleModifiers [sampleKeyword "public"],
          .mk { kind := "identifier", named := true, label := some "name", text := "E" } []],
      sampleInterface]

/-- An enum with these in its body. -/
def sampleHost : Node := bodied "enum_declaration" "E" [sampleDeclarations]

/-- A source with these two types. -/
def sampleHostSource : Node := .mk { kind := "program", named := true } [sampleHost]

example : (types sampleHostSource none).map (fun t =>
    (t.members.constructors.map (·.visibility), t.members.fields.map fun f => (f.visibility, f.isStatic))) =
      [([.privately], []), ([], [(.publicly, true)])] := by
  decide +kernel

theorem modifiers_sampleHostSource :
    (∃ t ∈ types sampleHostSource none,
      nodeKind t = "interface_declaration" ∧ OwnRules sampleInterface t ∧ Implied t) ∧
    DeclaresTop sampleHostSource ⟨[0, 1, 0, 1], [sampleHost], sampleInterface⟩ ∧
    MemberAt sampleInterface [1, 0] sampleFinal ∧
    [0] <+: [0, 1, 0, 1] := by
  have hbody : BodyAt sampleHost 1
      (.mk { kind := "enum_declaration_body", named := true, label := some "body" } [sampleDeclarations]) :=
    bodyPlace?_eq_some_iff.mp rfl
  have hinterface : MemberAt sampleHost [1, 0, 1] sampleInterface :=
    .enumBody rfl hbody ⟨rfl, rfl⟩ rfl ⟨rfl, rfl⟩
  have houter : DeclaresTop sampleHostSource ⟨[0], [], sampleHost⟩ :=
    .child (o := ⟨[], [], sampleHost⟩) ⟨rfl, rfl⟩ (.self (by decide))
  have hinner : DeclaresTop sampleHostSource ⟨[0, 1, 0, 1], [sampleHost], sampleInterface⟩ :=
    .child (o := ⟨[1, 0, 1], [sampleHost], sampleInterface⟩) ⟨rfl, rfl⟩
      (.member (by decide) hinterface (.self (by decide)))
  have hfield : MemberAt sampleInterface [1, 0] sampleFinal :=
    .body (by decide) (bodyPlace?_eq_some_iff.mp rfl) ⟨rfl, rfl⟩
  obtain ⟨⟨os, -, hos, hrules⟩, himplied, hinnermost⟩ := modifiers_by_own_declaration sampleHostSource none
  obtain ⟨hlength, hget⟩ := List.forall₂_iff_get.mp hrules
  obtain ⟨i, hi, hoccurrence⟩ := List.getElem_of_mem ((hos _).mpr hinner)
  have hown := hget i hi (hlength ▸ hi)
  simp only [List.get_eq_getElem, hoccurrence] at hown
  have hmem := List.get_mem (types sampleHostSource none) ⟨i, hlength ▸ hi⟩
  refine ⟨⟨_, hmem, hown.1, hown.2, himplied _ hmem⟩, hinner, hfield, ?_⟩
  exact hinnermost _ _ _ _ hinner houter hfield (by decide) (by decide)

end TypeCensus.Java
