import TypeCensus.Proofs.Pairing
import TypeCensus.Report.Query

/-!
# Singletons — the types that one report names, and as what

A class is a singleton by an open static field `INSTANCE`, or else by an open static method `getInstance`; an enum is
one by its only entry.  The members may stand anywhere in their lists.  There is one exception: of several static fields
`INSTANCE` only the first one is looked at, and one that is not open hides those after it.

* `find?_instance_eq_some_iff`, `any_instance_iff`: which of the fields is looked at, and what it says about the others.
* `classify_eq_some_iff`: the way in which a type is a singleton.
* `Varied.classify_eq`: order, and members that are not open or not static, have no say in it.
* `singletons_listing`: the report has a line for each singleton, in order, and no other.
-/

namespace TypeCensus.Report

/-! ## What makes a singleton -/

/-- The whole package, at least, may use a member. -/
def IsOpen (v : Visibility) : Prop := v = .publicly ∨ v = .package

/-- A static field `INSTANCE`. -/
def IsInstance (f : Field) : Prop := f.isStatic = true ∧ f.name = "INSTANCE"

/-- A static method `getInstance`. -/
def IsFactory (m : Method) : Prop := m.isStatic = true ∧ m.name = "getInstance"

/-- Somewhere among the fields stands an open static field `INSTANCE`. -/
def HoldsInstance (ms : Members) : Prop := ∃ f ∈ ms.fields, IsInstance f ∧ IsOpen f.visibility

/-- Somewhere among the methods stands an open static method `getInstance`. -/
def OffersInstance (ms : Members) : Prop := ∃ m ∈ ms.methods, IsFactory m ∧ IsOpen m.visibility

/-- The first static field `INSTANCE` of a list. -/
def FirstInstance (fs : List Field) (f : Field) : Prop :=
  IsInstance f ∧ ∃ before after, fs = before ++ f :: after ∧ ∀ g ∈ before, ¬ IsInstance g

/-- There is an open static field `INSTANCE`, but one that is not open stands before it. -/
def Overshadowed (ms : Members) : Prop :=
  HoldsInstance ms ∧ ∃ f, FirstInstance ms.fields f ∧ ¬ IsOpen f.visibility

/-- The way in which a type is a singleton. -/
inductive IsSingleton : TypeDecl → Singleton → Prop
  | publicField {flavor : Flavor} {ms : Members} (hfield : HoldsInstance ms)
      (hshown : ¬ Overshadowed ms) : IsSingleton (.classLike flavor ms) .publicField
  | staticFactory {flavor : Flavor} {ms : Members} (hfield : HoldsInstance ms → Overshadowed ms)
      (hmethod : OffersInstance ms) : IsSingleton (.classLike flavor ms) .staticFactory
  | singletonEnum {entry : String} {ms : Members} (hentry : entry = "INSTANCE") :
      IsSingleton (.enumeration [entry] ms) .singletonEnum

/-- A type with its members in another order, and with others beside them that are not open or not static.  Constructors
do not matter at all, and in an enum no members do. -/
inductive Varied : TypeDecl → TypeDecl → Prop
  | classLike {flavor : Flavor} {ms ms' : Members} {fields : List Field} {methods : List Method}
      (hfields : ms'.fields.Perm (ms.fields ++ fields))
      (hfields' : ∀ f ∈ fields, ¬ (f.isStatic = true ∧ IsOpen f.visibility))
      (hmethods : ms'.methods.Perm (ms.methods ++ methods))
      (hmethods' : ∀ m ∈ methods, ¬ (m.isStatic = true ∧ IsOpen m.visibility))
      (hshadow : Overshadowed ms' ↔ Overshadowed ms) :
      Varied (.classLike flavor ms) (.classLike flavor ms')
  | enumeration {entries : List String} {ms ms' : Members} :
      Varied (.enumeration entries ms) (.enumeration entries ms')

/-! ## Fields and methods -/

theorem isPublicOrPackage_iff {v : Visibility} : v.isPublicOrPackage = true ↔ IsOpen v := by
  unfold IsOpen
  cases v <;> decide

theorem isInstance_iff {f : Field} : (f.isStatic && f.name == "INSTANCE") = true ↔ IsInstance f := by
  simp [IsInstance]

theorem find?_instance_eq_some_iff {fs : List Field} {f : Field} :
    fs.find? (fun f => f.isStatic && f.name == "INSTANCE") = some f ↔ FirstInstance fs f := by
  rw [List.find?_eq_some_iff_append]
  simp only [FirstInstance, isInstance_iff, Bool.not_eq_true', ← Bool.not_eq_true]

theorem find?_instance_eq_none_iff {fs : List Field} :
    fs.find? (fun f => f.isStatic && f.name == "INSTANCE") = none ↔ ∀ f ∈ fs, ¬ IsInstance f := by
  simp only [List.find?_eq_none, isInstance_iff]

theorem FirstInstance.mem {fs : List Field} {f : Field} (h : FirstInstance fs f) : f ∈ fs := by
  obtain ⟨-, before, after, rfl, -⟩ := h
  simp

/-- The first static field `INSTANCE` is open if any one is, unless it overshadows that one. -/
theorem any_instance_iff (ms : Members) :
    (ms.fields.find? fun f => f.isStatic && f.name == "INSTANCE").any
        (·.visibility.isPublicOrPackage) = true ↔ HoldsInstance ms ∧ ¬ Overshadowed ms := by
  cases hfind : ms.fields.find? fun f => f.isStatic && f.name == "INSTANCE" with
  | none =>
    have hnone : ¬ HoldsInstance ms := by
      rintro ⟨f, hf, hinstance, -⟩
      exact find?_instance_eq_none_iff.mp hfind f hf hinstance
    simp [hnone]
  | some f =>
    have hfirst : FirstInstance ms.fields f := find?_instance_eq_some_iff.mp hfind
    rw [Option.any_some, isPublicOrPackage_iff]
    constructor
    · intro hopen
      refine ⟨⟨f, hfirst.mem, hfirst.1, hopen⟩, ?_⟩
      rintro ⟨-, g, hg, hclosed⟩
      have hsame : some f = some g := hfind.symm.trans (find?_instance_eq_some_iff.mpr hg)
      obtain rfl := Option.some.inj hsame
      exact hclosed hopen
    · rintro ⟨hholds, hshown⟩
      by_contra hclosed
      exact hshown ⟨hholds, f, hfirst, hclosed⟩

theorem any_factory_iff (ms : Members) :
    (ms.methods.filter fun m => m.isStatic && m.name == "getInstance").any
        (·.visibility.isPublicOrPackage) = true ↔ OffersInstance ms := by
  simp only [List.any_filter, List.any_eq_true, Bool.and_eq_true, isPublicOrPackage_iff,
    OffersInstance, IsFactory, beq_iff_eq]

/-! ## Types -/

theorem classify_classLike (flavor : Flavor) (ms : Members) (s : Singleton) :
    classify (.classLike flavor ms) = some s ↔ IsSingleton (.classLike flavor ms) s := by
  have hfirst := any_instance_iff ms
  have hfactory := any_factory_iff ms
  simp only [classify, classifyClass]
  constructor
  · intro h
    split_ifs at h with hfield hmethod
    · obtain rfl := Option.some.inj h
      obtain ⟨hholds, hshown⟩ := hfirst.mp hfield
      exact .publicField hholds hshown
    · obtain rfl := Option.some.inj h
      refine .staticFactory (fun hholds => ?_) (hfactory.mp hmethod)
      by_contra hshown
      exact hfield (hfirst.mpr ⟨hholds, hshown⟩)
  · intro h
    cases h with
    | publicField hholds hshown => rw [if_pos (hfirst.mpr ⟨hholds, hshown⟩)]
    | staticFactory hfield hmethod =>
      have hnone : ¬ (HoldsInstance ms ∧ ¬ Overshadowed ms) := fun h => h.2 (hfield h.1)
      rw [if_neg fun h => hnone (hfirst.mp h), if_pos (hfactory.mpr hmethod)]

theorem classify_enumeration (entries : List String) (ms : Members) (s : Singleton) :
    classify (.enumeration entries ms) = some s ↔ IsSingleton (.enumeration entries ms) s := by
  simp only [classify]
  constructor
  · intro h
    split_ifs at h with hentries
    obtain rfl := Option.some.inj h
    rw [hentries]
    exact .singletonEnum rfl
  · rintro ⟨⟩
    next hentry => rw [hentry, if_pos rfl]

/-- A type is a singleton in one way at most, and this is how it is classified. -/
theorem classify_eq_some_iff {d : TypeDecl} {s : Singleton} : classify d = some s ↔ IsSingleton d s := by
  cases d with
  | classLike flavor ms => exact classify_classLike flavor ms s
  | enumeration entries ms => exact classify_enumeration entries ms s

theorem isSome_classify_iff {d : TypeDecl} : (classify d).isSome = true ↔ ∃ s, IsSingleton d s := by
  rw [Option.isSome_iff_exists]
  simp only [classify_eq_some_iff]

instance (d : TypeDecl) : Decidable (∃ s, IsSingleton d s) := decidable_of_iff _ isSome_classify_iff

/-! ## Order and further members -/

/-- Members that are not asked for do not matter, wherever they stand. -/
theorem exists_mem_perm_append_iff {α : Type} {p : α → Prop} {xs ys zs : List α} (h : ys.Perm (xs ++ zs))
    (hzs : ∀ z ∈ zs, ¬ p z) : (∃ y ∈ ys, p y) ↔ ∃ x ∈ xs, p x := by
  constructor
  · rintro ⟨y, hy, hp⟩
    rcases List.mem_append.mp (h.mem_iff.mp hy) with hx | hz
    · exact ⟨y, hx, hp⟩
    · exact absurd hp (hzs y hz)
  · rintro ⟨x, hx, hp⟩
    exact ⟨x, h.mem_iff.mpr (List.mem_append_left zs hx), hp⟩

/-- The order of members has no say in the classification, nor have members that are not open or not static. -/
theorem Varied.classify_eq {d d' : TypeDecl} (h : Varied d d') : classify d' = classify d := by
  cases h with
  | @classLike flavor ms ms' fields methods hfields hfields' hmethods hmethods' hshadow =>
    have hholds : HoldsInstance ms' ↔ HoldsInstance ms :=
      exists_mem_perm_append_iff hfields fun f hf h => hfields' f hf ⟨h.1.1, h.2⟩
    have hoffers : OffersInstance ms' ↔ OffersInstance ms :=
      exists_mem_perm_append_iff hmethods fun m hm h => hmethods' m hm ⟨h.1.1, h.2⟩
    have hsame (s : Singleton) :
        IsSingleton (.classLike flavor ms') s ↔ IsSingleton (.classLike flavor ms) s := by
      constructor
      · rintro (⟨hfield, hshown⟩ | ⟨hfield, hmethod⟩)
        · exact .publicField (hholds.mp hfield) (mt hshadow.mpr hshown)
        · exact .staticFactory (fun h => hshadow.mp (hfield (hholds.mpr h))) (hoffers.mp hmethod)
      · rintro (⟨hfield, hshown⟩ | ⟨hfield, hmethod⟩)
        · exact .publicField (hholds.mpr hfield) (mt hshadow.mp hshown)
        · exact .staticFactory (fun h => hshadow.mpr (hfield (hholds.mp h))) (hoffers.mpr hmethod)
    ext s
    rw [classify_eq_some_iff, classify_eq_some_iff, hsame]
  | enumeration => rfl

/-! ## The report -/

/-- **Singletons.**  Whatever the threshold, the report has just one line for each type that is a singleton, in the
order of the types, and none for any other.  The order of members has no say in this, nor have members that are not open
or not static, unless a static field `INSTANCE` comes to hide another one, or no longer does. -/
theorem singletons_listing (us : List CompilationUnit) (t : Threshold) :
    List.Forall₂ (fun d l => ∃ s, IsSingleton d s ∧ l = ⟨d.qualifiedName, .label s⟩)
      ((us.flatMap (·.types)).filter fun d => ∃ s, IsSingleton d s) (Query.singletons.run us t) ∧
      ∀ d d', Varied d d' → classify d' = classify d := by
  refine ⟨?_, fun d d' h => h.classify_eq⟩
  refine forall₂_filter_filterMap (fun d => ?_) (fun d l hl => ?_) _
  · rw [Option.isSome_map, isSome_classify_iff]
  · obtain ⟨s, hs, rfl⟩ := Option.map_eq_some_iff.mp hl
    exact ⟨s, classify_eq_some_iff.mp hs, rfl⟩

/-! ## Samples -/

/-- A class with some members. -/
def classWith (fields : List Field) (methods : List Method) : TypeDecl :=
  .classLike .ordinary { Members.named "A" none with fields, methods }

/-- A static field `INSTANCE`. -/
def instanceField (v : Visibility) : Field := ⟨v, true, "INSTANCE"⟩

theorem not_overshadowed_of_find? {ms : Members} {f : Field} (hf : IsOpen f.visibility)
    (hfind : ms.fields.find? (fun f => f.isStatic && f.name == "INSTANCE") = some f) :
    ¬ Overshadowed ms := by
  rintro ⟨-, g, hg, hclosed⟩
  have hsame : some f = some g := hfind.symm.trans (find?_instance_eq_some_iff.mpr hg)
  exact hclosed (Option.some.inj hsame ▸ hf)

/-- A class with an open static field `INSTANCE`. -/
def sampleClass : TypeDecl := classWith [instanceField .package, ⟨.privately, true, "count"⟩] []

/-- The same with its fields in another order, a field of that name that is not static, and a static method
`getInstance` that is not open. -/
def variedClass : TypeDecl :=
  classWith [⟨.publicly, false, "INSTANCE"⟩, ⟨.privately, true, "count"⟩, instanceField .package]
    [⟨.protectedly, true, "getInstance"⟩]

theorem varied_sampleClass : Varied sampleClass variedClass := by
  have hopen : IsOpen (instanceField .package).visibility := .inr rfl
  refine @Varied.classLike _ _ _ [⟨.publicly, false, "INSTANCE"⟩] [⟨.protectedly, true, "getInstance"⟩]
    (by decide) (by simp) (by decide) (by simp [IsOpen]) (iff_of_false ?_ ?_)
  · exact not_overshadowed_of_find? hopen (by decide)
  · exact not_overshadowed_of_find? hopen (by decide)

theorem singletons_sampleClass :
    Varied sampleClass variedClass ∧ classify variedClass = classify sampleClass ∧
      classify sampleClass = some .publicField :=
  ⟨varied_sampleClass, (singletons_listing [] 0).2 _ _ varied_sampleClass, by decide⟩

/-- A static field `INSTANCE` that is not open hides one that is, if it comes first. -/
theorem singletons_overshadowed :
    HoldsInstance (classWith [instanceField .privately, instanceField .package] []).members ∧
      Query.singletons.run
        [⟨"A.java", none, [classWith [instanceField .privately, instanceField .package] []]⟩] 0 = [] ∧
      Query.singletons.run
        [⟨"A.java", none, [classWith [instanceField .package, instanceField .privately] []]⟩] 0 =
          [⟨"A", .label .publicField⟩] := by
  refine ⟨⟨instanceField .package, by simp [classWith, TypeDecl.members], ⟨rfl, rfl⟩, .inr rfl⟩, ?_, ?_⟩
  · decide
  · decide

end TypeCensus.Report
