import TypeCensus.Proofs.Java.Preorder

/-!
# Members — what stands in the body of a type

The lists of a type are matched with the nodes of its own body.  Which nodes these are is said by their places, as
relations, and not by going through the tree.

* `OneEach`: a list describes the nodes at some places, one for one and in the order of the source.
* `OwnMembers`: what each list of a type describes.
* `ownMembers_declaration`: the type that a declaration is read as holds its own members and nothing else.
-/

namespace TypeCensus.Java

open TypeCensus.Syntax (Node)

/-! ## One for one -/

/-- The nodes that a relation places are described by the items of a list, one for one and from left to right. -/
def OneEach {α : Type} (At : Place → Node → Prop) (D : Node → α → Prop) (xs : List α) : Prop :=
  ∃ ps : List (Node × Place), ps.Pairwise (fun a b => LeftOf a.2 b.2) ∧
    (∀ c p, (c, p) ∈ ps ↔ At p c) ∧ List.Forall₂ (fun a x => D a.1 x) ps xs

theorem OneEach.imp {α : Type} {At : Place → Node → Prop} {D D' : Node → α → Prop} {xs : List α}
    (h : OneEach At D xs) (hD : ∀ c x, D c x → D' c x) : OneEach At D' xs := by
  obtain ⟨ps, hps, hat, hxs⟩ := h
  exact ⟨ps, hps, hat, hxs.imp fun a x hx => hD a.1 x hx⟩

/-- A list is read off some nodes that stand side by side, and only some of them give an item. -/
theorem oneEach_filterMap {α : Type} {At : Place → Node → Prop} {D : Node → α → Prop}
    {ps : List (Node × Place)} (hps : ps.Pairwise fun a b => LeftOf a.2 b.2) {f : Node → Option α}
    (hat : ∀ c p, (c, p) ∈ ps ∧ (f c).isSome = true ↔ At p c)
    (hD : ∀ c x, f c = some x → D c x) : OneEach At D ((ps.map (·.1)).filterMap f) := by
  refine ⟨ps.filter fun a => (f a.1).isSome, hps.filter _, fun c p => ?_, ?_⟩
  · rw [List.mem_filter]
    exact hat c p
  · rw [List.filterMap_map]
    exact forall₂_filterMap (fun a x h => hD a.1 x h) ps

/-! ## Children of a child -/

/-- The named children of a child, with their places. -/
def placesBelow (b : Node × Nat) : List (Node × Place) :=
  (namedPlaces b.1).map fun c => (c.1, [b.2, c.2])

theorem map_fst_placesBelow (b : Node × Nat) : (placesBelow b).map (·.1) = b.1.namedChildren := by
  rw [placesBelow, List.map_map, ← map_fst_namedPlaces]
  rfl

theorem mem_placesBelow {b c : Node} {i : Nat} {p : Place} :
    (c, p) ∈ placesBelow (b, i) ↔ ∃ j, p = [i, j] ∧ NamedAt b j c := by
  simp only [placesBelow, List.mem_map, Prod.exists, Prod.mk.injEq, mem_namedPlaces]
  constructor
  · rintro ⟨_, j, hc, rfl, rfl⟩
    exact ⟨j, rfl, hc⟩
  · rintro ⟨j, rfl, hc⟩
    exact ⟨c, j, hc, rfl, rfl⟩

theorem pairwise_placesBelow (b : Node × Nat) :
    (placesBelow b).Pairwise fun a c => LeftOf a.2 c.2 := by
  rw [placesBelow, List.pairwise_map]
  refine (pairwise_namedPlaces b.1).imp fun hlt => ?_
  exact ⟨[b.2], _, _, [], [], rfl, rfl, hlt⟩

/-! ## Parameters -/

/-- The node of a parameter's type.  A parameter that takes any number of values has no label for it: there it is the
first named child that is neither its modifiers nor its declarator. -/
def TypeNode (n t : Node) : Prop :=
  n.labelled? "type" = some t ∨
    n.kind = "spread_parameter" ∧ n.labelled? "type" = none ∧
      n.namedChildren.find? (fun c => c.kind != "modifiers" && c.kind != "variable_declarator") = some t

/-- A parameter of a constructor: one of the named children of its list of parameters, but no receiver. -/
inductive ParameterAt (n : Node) : Place → Node → Prop where
  | mk {i j : Nat} {ps p t : Node} (hps : LabelledAt "parameters" n i ps) (hp : NamedAt ps j p)
      (hkind : p.kind ∈ ["formal_parameter", "spread_parameter"]) (ht : TypeNode p t) :
      ParameterAt n [i, j] p

/-- A parameter has the type of its node, and says whether it takes any number of values. -/
structure DescribesParameter (n : Node) (x : Parameter) : Prop where
  varargs : x.varargs = true ↔ n.kind = "spread_parameter"
  typeName : ∃ t dimensions, TypeNode n t ∧ x.typeName = t.plainText ++ dimensions

/-- What is read off a parameter; dimensions after its name belong to its type, unless it takes any number of
values. -/
theorem typeNode_of_parameter? {n : Node} {x : Parameter} (h : parameter? n = some x) :
    ∃ t, TypeNode n t ∧
      (n.kind = "formal_parameter" ∧ x.varargs = false ∧
          x.typeName = t.plainText ++ ((n.labelled? "dimensions").map (·.plainText)).getD "" ∨
        n.kind = "spread_parameter" ∧ x.varargs = true ∧ x.typeName = t.plainText) := by
  unfold parameter? at h
  split at h
  · next hkind =>
    obtain ⟨t, ht, rfl⟩ := Option.map_eq_some_iff.mp h
    exact ⟨t, .inl ht, .inl ⟨hkind, rfl, rfl⟩⟩
  · next hkind =>
    obtain ⟨t, ht, rfl⟩ := Option.map_eq_some_iff.mp h
    refine ⟨t, ?_, .inr ⟨hkind, rfl, rfl⟩⟩
    rw [Option.orElse_eq_orElse, Option.orElse_eq_or, Option.or_eq_some_iff] at ht
    exact ht.imp id fun ⟨hnone, hfirst⟩ => ⟨hkind, hnone, hfirst⟩
  · simp at h

theorem describesParameter_of_parameter? {n : Node} {x : Parameter} (h : parameter? n = some x) :
    DescribesParameter n x := by
  obtain ⟨t, ht, ⟨hkind, hvarargs, htype⟩ | ⟨hkind, hvarargs, htype⟩⟩ := typeNode_of_parameter? h
  · exact ⟨by simp [hkind, hvarargs], t, _, ht, htype⟩
  · exact ⟨by simp [hkind, hvarargs], t, "", ht, by rw [htype, String.append_empty]⟩

theorem isSome_parameter?_iff {n : Node} :
    (parameter? n).isSome = true ↔
      n.kind ∈ ["formal_parameter", "spread_parameter"] ∧ ∃ t, TypeNode n t := by
  constructor
  · intro h
    obtain ⟨x, hx⟩ := Option.isSome_iff_exists.mp h
    obtain ⟨-, t, -, ht, -⟩ := describesParameter_of_parameter? hx
    refine ⟨?_, t, ht⟩
    unfold parameter? at h
    split at h <;> simp_all
  · rintro ⟨hkind, t, ht⟩
    simp only [List.mem_cons, List.not_mem_nil, or_false] at hkind
    rcases hkind with hkind | hkind
    · rcases ht with ht | ⟨hspread, -⟩
      · simp [parameter?, hkind, ordinaryParameter?, ht]
      · simp [hkind] at hspread
    · rcases ht with ht | ⟨-, hnone, ht⟩
      · simp [parameter?, hkind, spreadParameter?, ht]
      · simp [parameter?, hkind, spreadParameter?, hnone, ht]

/-- The parameters of a constructor are those of its list, each once and in order. -/
theorem oneEach_parameters (n : Node) :
    OneEach (ParameterAt n) DescribesParameter
      (((n.labelled? "parameters").map fun ps => ps.namedChildren.filterMap parameter?).getD []) := by
  rw [← map_fst_labelledPlace?]
  cases hps : labelledPlace? "parameters" n with
  | none =>
    refine ⟨[], .nil, fun c p => iff_of_false (by simp) ?_, .nil⟩
    rintro ⟨hat, -, -, -⟩
    simp [labelledPlace?_eq_some_iff.mpr hat] at hps
  | some b =>
    obtain ⟨ps, i⟩ := b
    have hat : LabelledAt "parameters" n i ps := labelledPlace?_eq_some_iff.mp hps
    simp only [Option.map_some, Option.getD_some]
    rw [← map_fst_placesBelow (ps, i)]
    refine oneEach_filterMap (pairwise_placesBelow _) (fun c p => ?_)
      fun _ _ => describesParameter_of_parameter?
    rw [mem_placesBelow, isSome_parameter?_iff]
    constructor
    · rintro ⟨⟨j, rfl, hc⟩, hkind, t, ht⟩
      exact .mk hat hc hkind ht
    · rintro ⟨hat', hc, hkind, ht⟩
      obtain ⟨rfl, rfl⟩ := hat.unique hat'
      exact ⟨⟨_, rfl, hc⟩, hkind, _, ht⟩

/-! ## What stands in a body -/

/-- A constructor of a type.  Like all that is declared, it has a name. -/
def ConstructorAt (d : Node) (p : Place) (c : Node) : Prop :=
  MemberAt d p c ∧ c.kind = "constructor_declaration" ∧ c.name?.isSome

/-- A method of a type. -/
def MethodAt (d : Node) (p : Place) (c : Node) : Prop :=
  MemberAt d p c ∧ c.kind = "method_declaration" ∧ c.name?.isSome

/-- A declaration of fields of a type; in interfaces these are constants. -/
def FieldsAt (d : Node) (p : Place) (c : Node) : Prop :=
  MemberAt d p c ∧ c.kind ∈ ["field_declaration", "constant_declaration"]

/-- A declarator of a declaration of fields. -/
inductive DeclaratorAt (m : Node) : Place → Node → Prop where
  | mk {i : Nat} {v : Node} (hv : m.children[i]? = some v) (hlabel : v.info.label = some "declarator")
      (hname : v.name?.isSome) : DeclaratorAt m [i] v

/-- A constant of an enum. -/
inductive ConstantAt (d : Node) : Place → Node → Prop where
  | mk {i j : Nat} {b c : Node} (hd : d.kind = "enum_declaration") (hb : BodyAt d i b)
      (hc : NamedAt b j c) (hkind : c.kind = "enum_constant") (hname : c.name?.isSome) :
      ConstantAt d [i, j] c

/-- A constructor has the name of its node and the parameters in its list. -/
structure DescribesConstructor (n : Node) (x : Constructor) : Prop where
  name : n.name? = some x.name
  parameters : OneEach (ParameterAt n) DescribesParameter x.parameters

/-- The fields of one declaration: one for each declarator, with one visibility, static together or not at all. -/
structure DescribesFields (m : Node) (fs : List Field) : Prop where
  declarators : OneEach (DeclaratorAt m) (fun v f => v.name? = some f.name) fs
  shared : ∃ visibility isStatic, ∀ f ∈ fs, f.visibility = visibility ∧ f.isStatic = isStatic

/-- The constants of a type; only enums have any. -/
def constants : TypeDecl → List String
  | .classLike _ _ => []
  | .enumeration entries _ => entries

/-- The lists of a type describe what stands in the body of a declaration, and nothing else. -/
structure OwnMembers (d : Node) (t : TypeDecl) : Prop where
  constructors : OneEach (ConstructorAt d) DescribesConstructor t.members.constructors
  methods : OneEach (MethodAt d) (fun c m => c.name? = some m.name) t.members.methods
  fields : ∃ groups, OneEach (FieldsAt d) DescribesFields groups ∧ t.members.fields = groups.flatten
  constants : OneEach (ConstantAt d) (fun c name => c.name? = some name) (constants t)

/-! ## What is read off a body -/

section Declaration

variable {h : Host} {d : Node}

/-- A list of members of one kind. -/
theorem oneEach_members {α : Type} (henum : h = .enum ↔ d.kind = "enum_declaration")
    {At : Place → Node → Prop} {p : Node → Bool} {f : Node → Option α}
    (hat : ∀ q c, MemberAt d q c ∧ p c = true ∧ (f c).isSome = true ↔ At q c) :
    OneEach At (fun c x => f c = some x) (((memberNodes h d).filter p).filterMap f) := by
  rw [List.filterMap_filter, ← map_fst_memberPlaces henum]
  refine oneEach_filterMap (pairwise_memberPlaces d) (fun c q => ?_) fun c x hx => ?_
  · rw [mem_memberPlaces, ← hat]
    cases p c <;> simp
  · split at hx
    · exact hx
    · simp at hx

theorem oneEach_constructors (henum : h = .enum ↔ d.kind = "enum_declaration") :
    OneEach (ConstructorAt d) (fun c x => constructor? h c = some x)
      (((memberNodes h d).filter (·.kind == "constructor_declaration")).filterMap (constructor? h)) := by
  refine oneEach_members henum fun q c => ?_
  simp [ConstructorAt, constructor?]

theorem oneEach_methods (henum : h = .enum ↔ d.kind = "enum_declaration") :
    OneEach (MethodAt d) (fun c x => method? h c = some x)
      (((memberNodes h d).filter (·.kind == "method_declaration")).filterMap (method? h)) := by
  refine oneEach_members henum fun q c => ?_
  simp [MethodAt, method?]

theorem describesConstructor {c : Node} {x : Constructor} (hx : constructor? h c = some x) :
    DescribesConstructor c x := by
  obtain ⟨name, hname, rfl⟩ := Option.map_eq_some_iff.mp hx
  exact ⟨hname, oneEach_parameters c⟩

theorem name?_of_method? {c : Node} {x : Method} (hx : method? h c = some x) : c.name? = some x.name := by
  obtain ⟨name, hname, rfl⟩ := Option.map_eq_some_iff.mp hx
  exact hname

theorem describesFields (h : Host) (m : Node) : DescribesFields m (fields h m) := by
  constructor
  · have hplaces : m.labelled "declarator" =
        ((m.children.zipIdx.filter (·.1.info.label == some "declarator")).map
          fun v => (v.1, [v.2])).map (·.1) := by
      rw [Node.labelled, ← List.zipIdx_map_fst 0 m.children, List.filter_map, List.map_map]
      simp [Function.comp_def]
    unfold fields
    rw [hplaces]
    refine oneEach_filterMap ?_ (fun v p => ?_) fun v f hf => ?_
    · rw [List.pairwise_map]
      apply List.Pairwise.filter
      have hlt : (m.children.zipIdx.map (·.2)).Pairwise (· < ·) := by
        rw [List.zipIdx_map_snd]
        exact List.pairwise_lt_range'
      exact (List.pairwise_map.mp hlt).imp fun h => ⟨[], _, _, [], [], rfl, rfl, h⟩
    · simp only [List.mem_map, List.mem_filter, Prod.exists, List.mem_zipIdx_iff_getElem?,
        Prod.mk.injEq, Option.isSome_map, beq_iff_eq]
      constructor
      · rintro ⟨⟨_, i, ⟨hv, hlabel⟩, rfl, rfl⟩, hname⟩
        exact .mk hv hlabel hname
      · rintro ⟨hv, hlabel, hname⟩
        exact ⟨⟨v, _, ⟨hv, hlabel⟩, rfl, rfl⟩, hname⟩
    · obtain ⟨name, hname, rfl⟩ := Option.map_eq_some_iff.mp hf
      exact hname
  · refine ⟨(Modifiers.ofNode m).memberVisibility h, (Modifiers.ofNode m).fieldIsStatic h, ?_⟩
    intro f hf
    obtain ⟨v, -, hv⟩ := List.mem_filterMap.mp hf
    obtain ⟨name, -, rfl⟩ := Option.map_eq_some_iff.mp hv
    exact ⟨rfl, rfl⟩

/-- The fields of a type are those of its declarations of fields, one group after the other. -/
theorem exists_oneEach_fields (henum : h = .enum ↔ d.kind = "enum_declaration") :
    ∃ groups, OneEach (FieldsAt d) (fun c fs => fields h c = fs) groups ∧
      ((memberNodes h d).filter fun m =>
        m.kind == "field_declaration" || m.kind == "constant_declaration").flatMap (fields h) =
          groups.flatten := by
  refine ⟨((memberNodes h d).filter fun m =>
    m.kind == "field_declaration" || m.kind == "constant_declaration").filterMap
      fun m => some (fields h m), ?_, ?_⟩
  · refine (oneEach_members henum fun q c => ?_).imp fun c x hx => ?_
    · simp [FieldsAt]
    · exact Option.some.inj hx
  · rw [List.filterMap_eq_map', List.flatMap_def]

theorem oneEach_entries (hd : d.kind = "enum_declaration") :
    OneEach (ConstantAt d) (fun c name => c.name? = some name) (entries d) := by
  unfold entries
  rw [← map_fst_bodyPlace?]
  cases hb : bodyPlace? d with
  | none =>
    refine ⟨[], .nil, fun c p => iff_of_false (by simp) ?_, .nil⟩
    rintro ⟨-, hat, -, -, -⟩
    simp [bodyPlace?_eq_some_iff.mpr hat] at hb
  | some p =>
    obtain ⟨b, i⟩ := p
    have hat : BodyAt d i b := bodyPlace?_eq_some_iff.mp hb
    simp only [Option.map_some]
    rw [List.filterMap_filter, ← map_fst_placesBelow (b, i)]
    refine oneEach_filterMap (pairwise_placesBelow _) (fun c q => ?_) fun c name hname => ?_
    · rw [mem_placesBelow]
      constructor
      · rintro ⟨⟨j, rfl, hc⟩, hsome⟩
        split at hsome
        · next hkind => exact .mk hd hat hc (by simpa using hkind) hsome
        · simp at hsome
      · rintro ⟨-, hat', hc, hkind, hname⟩
        obtain ⟨rfl, rfl⟩ := LabelledAt.unique hat hat'
        exact ⟨⟨_, rfl, hc⟩, by simpa [hkind] using hname⟩
    · split at hname
      · exact hname
      · simp at hname

/-- The type that a declaration is read as holds its own members and nothing else. -/
theorem ownMembers_declaration (hh : hostOf? d = some h) (name : String) (q : Option String) :
    OwnMembers d (declaration h name q d) := by
  have henum := eq_enum_iff hh
  have hconstants : OneEach (ConstantAt d) (fun c name => c.name? = some name)
      (constants (declaration h name q d)) := by
    by_cases hd : d.kind = "enum_declaration"
    · obtain rfl := henum.mpr hd
      exact oneEach_entries hd
    · have hnone : constants (declaration h name q d) = [] := by
        cases h with
        | enum => exact absurd (henum.mp rfl) hd
        | ordinary => rfl
        | interface => rfl
      rw [hnone]
      refine ⟨[], .nil, fun c p => iff_of_false (by simp) ?_, .nil⟩
      rintro ⟨hd', -, -, -, -⟩
      exact hd hd'
  have hconstructors := (oneEach_constructors henum).imp fun _ _ => describesConstructor
  have hmethods := (oneEach_methods henum).imp fun _ _ => name?_of_method?
  obtain ⟨groups, heach, hfields⟩ := exists_oneEach_fields henum
  have hgroups := heach.imp fun c fs hfs => hfs ▸ describesFields h c
  cases h <;> exact ⟨hconstructors, hmethods, ⟨groups, hgroups, hfields⟩, hconstants⟩

end Declaration

end TypeCensus.Java
