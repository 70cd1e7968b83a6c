import TypeCensus.Session
import Mathlib.Algebra.GroupWithZero.Nat
import Mathlib.Data.List.Forall2

/-!
# Views — the reports of one session, side by side

The listing and the three reports go through the same types in the same order.  With the threshold at zero nothing is
left out: every class has one line in one report and, in another one, a block of lines that its count is about.

* `allClasses_eq_map`: the classes are found among all types, in order.
* `manyConstructors_zero`, `manyParameters_zero`: the two reports on constructors, class by class.
* `exists_singletons_eq`: the types that have a line in the report on singletons.
* `views_agree`: all of them, with the listing of a session.
-/

namespace TypeCensus.Report

/-- Whether a type is a class or an interface. -/
def isClassLike : TypeDecl → Bool
  | .classLike _ _ => true
  | .enumeration _ _ => false

/-- The lines about the constructors of one type: a line for each that is not private, in order. -/
structure BlockOf (d : TypeDecl) (block : List Line) : Prop where
  subjects : block.map (·.subject) =
    (d.members.constructors.filter (·.visibility ≠ .privately)).map fun c =>
      d.qualifiedName ++ "." ++ c.signature
  values : block.map (·.value) =
    (d.members.constructors.filter (·.visibility ≠ .privately)).map fun c =>
      .count c.parameters.length

/-! ## Classes -/

theorem allClasses_eq_map (us : List CompilationUnit) :
    allClasses us = ((allTypes us).filter isClassLike).map TypeDecl.members := by
  unfold allClasses
  induction allTypes us with
  | nil => rfl
  | cons d ds ih =>
    rw [List.filterMap_cons, List.filter_cons, ih]
    cases d <;> rfl

theorem openConstructors_eq_filter (ms : Members) :
    ms.openConstructors = ms.constructors.filter (·.visibility ≠ .privately) := by
  unfold Members.openConstructors
  congr 1
  funext c
  cases c.visibility <;> rfl

/-! ## Reports at the threshold zero -/

theorem reaches_zero (n : Nat) : reaches 0 n = true := by simp [reaches]

/-- One line for each class. -/
theorem manyConstructors_zero (us : List CompilationUnit) :
    manyConstructors us 0 = ((allTypes us).filter isClassLike).map fun d =>
      ⟨d.qualifiedName, .count d.members.openConstructors.length⟩ := by
  simp [manyConstructors, allClasses_eq_map, reaches_zero, TypeDecl.qualifiedName]

/-- The lines about the constructors of one type. -/
def constructorLines (d : TypeDecl) : List Line :=
  d.members.openConstructors.map fun c =>
    ⟨d.qualifiedName ++ "." ++ c.signature, .count c.parameters.length⟩

theorem blockOf_constructorLines (d : TypeDecl) : BlockOf d (constructorLines d) := by
  constructor <;> simp [constructorLines, openConstructors_eq_filter]

/-- One block for each class. -/
theorem manyParameters_zero (us : List CompilationUnit) :
    manyParameters us 0 = (((allTypes us).filter isClassLike).map constructorLines).flatten := by
  simp only [manyParameters, allClasses_eq_map, reaches_zero, if_true, List.filterMap_eq_map',
    List.flatMap_map]
  exact List.flatMap_def ..

/-! ## Singletons -/

/-- The types that have a line in the report on singletons. -/
theorem exists_singletons_eq (us : List CompilationUnit) :
    ∃ ds : List TypeDecl, ds.Sublist (allTypes us) ∧
      (singletons us).map (·.subject) = ds.map TypeDecl.qualifiedName := by
  refine ⟨(allTypes us).filter fun d => (classify d).isSome, List.filter_sublist, ?_⟩
  unfold singletons
  induction allTypes us with
  | nil => rfl
  | cons d ds ih => cases h : classify d <;> simp [h, ih]

/-! ## A session -/

/-- **The views of a session agree.**  Let some units be loaded.  The listing names all their types in order.  With
the threshold at zero, one report names the classes and interfaces among them, in the same order, and the other one
falls into a block of lines for each of these; the count of a class is the length of its block, so that all counts
add up to the number of lines.  The report on singletons has at most one line for each type, in the same order. -/
theorem views_agree {m : Type → Type} {ε : Type} [Monad m] (provider : Provider m ε) (s : Session)
    (hs : s.units ≠ []) :
    let types := s.units.flatMap (·.types)
    let classes := types.filter isClassLike
    let counted := manyConstructors s.units 0
    let detailed := manyParameters s.units 0
    s.execute provider .list = pure (.goOn (types.map TypeDecl.qualifiedName) s) ∧
      counted.map (·.subject) = classes.map TypeDecl.qualifiedName ∧
      (∃ blocks : List (List Line), detailed = blocks.flatten ∧ List.Forall₂ BlockOf classes blocks ∧
        counted.map (·.value) = blocks.map fun block => .count block.length) ∧
      (∃ counts : List Nat, counted.map (·.value) = counts.map .count ∧
        counts.sum = detailed.length) ∧
      ∃ ds : List TypeDecl, ds.Sublist types ∧
        (singletons s.units).map (·.subject) = ds.map TypeDecl.qualifiedName := by
  intro types classes counted detailed
  have hcounted : counted = classes.map fun d =>
      ⟨d.qualifiedName, .count d.members.openConstructors.length⟩ := manyConstructors_zero s.units
  have hdetailed : detailed = (classes.map constructorLines).flatten := manyParameters_zero s.units
  have hlength (d : TypeDecl) : (constructorLines d).length = d.members.openConstructors.length := by
    simp [constructorLines]
  refine ⟨?_, ?_, ⟨classes.map constructorLines, hdetailed, ?_, ?_⟩,
    ⟨classes.map fun d => (constructorLines d).length, ?_, ?_⟩, exists_singletons_eq s.units⟩
  · -- only a session without units answers otherwise
    have hlisting : s.listing = types.map TypeDecl.qualifiedName := by
      unfold Session.listing
      split
      · next hnil => exact absurd hnil hs
      · rfl
    rw [Session.execute, hlisting]
  · simp [hcounted]
  · rw [List.forall₂_map_right_iff, List.forall₂_same]
    exact fun d _ => blockOf_constructorLines d
  · simp [hcounted, hlength]
  · simp [hcounted, hlength]
  · simp [hdetailed, List.length_flatten, Function.comp_def]

/-- Two units with types of one name, an enum between classes, and a class without constructors. -/
def sampleSession : Session where
  units? := some [
    ⟨"A.java", some "p", [
      .classLike .ordinary {
        Members.named "A" (some "p") with
        constructors := [⟨.publicly, "A", [⟨"int", "n", false⟩]⟩, ⟨.privately, "A", []⟩,
          ⟨.package, "A", []⟩] },
      .enumeration ["INSTANCE"] (.named "E" (some "p.A"))]⟩,
    ⟨"B.java", some "p", [.classLike .interface (.named "I" (some "p")),
      .classLike .ordinary {
        Members.named "A" (some "p") with
        constructors := [⟨.protectedly, "A", [⟨"int", "n", true⟩]⟩]
        fields := [⟨.package, true, "INSTANCE"⟩] }]⟩]

theorem views_sampleSession :
    sampleSession.units ≠ [] ∧
      sampleSession.listing = ["p.A", "p.A.E", "p.I", "p.A"] ∧
      (manyConstructors sampleSession.units 0).map (·.subject) = ["p.A", "p.I", "p.A"] ∧
      ∃ counts : List Nat,
        (manyConstructors sampleSession.units 0).map (·.value) = counts.map .count ∧
          counts.sum = (manyParameters sampleSession.units 0).length := by
  have hs : sampleSession.units ≠ [] := by simp [sampleSession, Session.units]
  obtain ⟨hlist, hsubjects, -, hcounts, -⟩ :=
    views_agree (fun _ => pure [] : Provider Id String) sampleSession hs
  have hlisting := (Turn.goOn.inj hlist).1
  exact ⟨hs, hlisting.trans (by decide +kernel), hsubjects.trans (by decide +kernel), hcounts⟩

end TypeCensus.Report
