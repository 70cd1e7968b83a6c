import TypeCensus.Proofs.Report.Views

/-!
# Thresholds — what a larger threshold leaves of a report

Two of the reports are about the open constructors of classes, and count them or their parameters.  A threshold takes
lines out of such a report and does nothing else to it, so that of two reports on the same units the one with the larger
threshold is found in the other one.

* `openClasses`, `linesOf`: what these reports read, and all lines they could have about it.
* `run_eq_filter`: a report holds those of the lines whose counts reach the threshold.
* `openClasses_eq_of_sameOpen`: private constructors are not read, nor are those of enums.
* `thresholds_only_filter`: any two thresholds, side by side.
-/

namespace TypeCensus.Report

/-! ## What is said about counts -/

/-- The count of a line reaches a threshold. -/
def Attains (t : Threshold) (l : Line) : Prop := ∃ n, l.value = .count n ∧ t.toNat ≤ n

/-- Two types of one name that have the same constructors but for private ones, or two enums with any constructors. -/
inductive SameOpen : TypeDecl → TypeDecl → Prop
  | classLike {flavor flavor' : Flavor} {ms ms' : Members} (name : ms'.qualifiedName = ms.qualifiedName)
      (constructors : ms'.constructors.filter (·.visibility ≠ .privately) =
        ms.constructors.filter (·.visibility ≠ .privately)) :
      SameOpen (.classLike flavor ms) (.classLike flavor' ms')
  | enumeration {entries entries' : List String} {ms ms' : Members} :
      SameOpen (.enumeration entries ms) (.enumeration entries' ms')

theorem attains_iff_of_count {t : Threshold} {l : Line} {n : Nat} (h : l.value = .count n) :
    Attains t l ↔ t.toNat ≤ n := by
  constructor
  · rintro ⟨m, hm, hle⟩
    obtain rfl : m = n := by simpa [h] using hm.symm
    exact hle
  · exact fun hle => ⟨n, h, hle⟩

instance (t : Threshold) (l : Line) : Decidable (Attains t l) :=
  match h : l.value with
  | .count _ => decidable_of_iff _ (attains_iff_of_count h).symm
  | .label _ => isFalse fun ⟨_, hn, _⟩ => by simp [h] at hn

/-- What attains a threshold attains any smaller one. -/
theorem Attains.mono {t u : Threshold} {l : Line} (htu : t ≤ u) (h : Attains u l) : Attains t l := by
  obtain ⟨n, hn, hle⟩ := h
  have hlt : t.toNat ≤ u.toNat := UInt64.le_iff_toNat_le.mp htu
  exact ⟨n, hn, by omega⟩

/-! ## What a report reads -/

/-- The classes and interfaces of some units: their names, and their constructors that are not private. -/
def openClasses (us : List CompilationUnit) : List (String × List Constructor) :=
  (allClasses us).map fun ms => (ms.qualifiedName, ms.openConstructors)

/-- All lines that a report could have about a class. -/
def linesOf (q : Query) (c : String × List Constructor) : List Line :=
  match q with
  | .manyConstructors => [⟨c.1, .count c.2.length⟩]
  | .manyParameters => c.2.map fun k => ⟨c.1 ++ "." ++ k.signature, .count k.parameters.length⟩
  | .singletons => []

/-- Lines that are made only where a count reaches the threshold. -/
theorem filterMap_reaches {α : Type} {f : α → Line} {n : α → Nat} (hf : ∀ a, (f a).value = .count (n a))
    (t : Threshold) (l : List α) :
    l.filterMap (fun a => if reaches t (n a) then some (f a) else none) =
      (l.map f).filter (Attains t) := by
  induction l with
  | nil => rfl
  | cons a l ih =>
    have hattains : Attains t (f a) ↔ reaches t (n a) = true := by
      rw [attains_iff_of_count (hf a), reaches, decide_eq_true_iff]
    rw [List.filterMap_cons, List.map_cons, List.filter_cons, ih]
    by_cases ha : reaches t (n a) = true
    · rw [if_pos ha, if_pos (decide_eq_true (hattains.mpr ha))]
    · rw [if_neg ha, if_neg (by simpa [hattains] using ha)]

/-- A report on constructors holds those of its lines whose counts reach the threshold. -/
theorem run_eq_filter {q : Query} (hq : q ≠ .singletons) (us : List CompilationUnit) (t : Threshold) :
    q.run us t = ((openClasses us).flatMap (linesOf q)).filter (Attains t) := by
  cases q with
  | manyConstructors =>
    have hlines : (openClasses us).flatMap (linesOf .manyConstructors) =
        (allClasses us).map fun ms => ⟨ms.qualifiedName, .count ms.openConstructors.length⟩ := by
      rw [openClasses, List.flatMap_map]
      exact List.map_eq_flatMap.symm
    rw [hlines]
    exact filterMap_reaches (fun _ => rfl) t _
  | manyParameters =>
    rw [openClasses, List.flatMap_map, List.filter_flatMap]
    refine List.flatMap_congr fun ms _ => ?_
    exact filterMap_reaches (fun _ => rfl) t _
  | singletons => exact absurd rfl hq

theorem attains_zero {q : Query} {us : List CompilationUnit} {l : Line}
    (h : l ∈ (openClasses us).flatMap (linesOf q)) : Attains 0 l := by
  obtain ⟨c, -, hl⟩ := List.mem_flatMap.mp h
  cases q with
  | manyConstructors =>
    obtain rfl := List.mem_singleton.mp hl
    exact ⟨_, rfl, Nat.zero_le _⟩
  | manyParameters =>
    obtain ⟨k, -, rfl⟩ := List.mem_map.mp hl
    exact ⟨_, rfl, Nat.zero_le _⟩
  | singletons => simp [linesOf] at hl

/-- With the threshold at zero nothing is left out. -/
theorem run_zero {q : Query} (hq : q ≠ .singletons) (us : List CompilationUnit) :
    q.run us 0 = (openClasses us).flatMap (linesOf q) := by
  rw [run_eq_filter hq]
  exact List.filter_eq_self.mpr fun l hl => decide_eq_true (attains_zero hl)

/-- Private constructors are not read, nor are those of enums. -/
theorem openClasses_eq_of_sameOpen {us us' : List CompilationUnit}
    (h : List.Forall₂ SameOpen (us.flatMap (·.types)) (us'.flatMap (·.types))) :
    openClasses us' = openClasses us := by
  unfold openClasses allClasses
  change List.Forall₂ SameOpen (allTypes us) (allTypes us') at h
  generalize allTypes us = ds, allTypes us' = ds' at h
  induction h with
  | nil => rfl
  | cons hd _ ih =>
    cases hd with
    | @classLike flavor flavor' ms ms' hname hconstructors =>
      have hopen : ms'.openConstructors = ms.openConstructors := by
        rw [openConstructors_eq_filter, openConstructors_eq_filter, hconstructors]
      simpa [TypeDecl.classMembers?, hname, hopen] using ih
    | enumeration => exact ih

/-! ## Any two thresholds -/

/-- **Thresholds only filter.**  Let `t` be at most `u`.  A report on constructors at `u` is the one at `t` without the
lines whose counts do not reach `u`; so a larger threshold never adds, moves or changes a line, and a line is there just
for the thresholds up to its count.  At zero, one report has a line for each class and interface, and the other one has a
line for each of their constructors that is not private, both in order.  Private constructors have no say in any line, nor
have the constructors of enums. -/
theorem thresholds_only_filter (us : List CompilationUnit) :
    let classes := (us.flatMap (·.types)).filter isClassLike
    let openOf (d : TypeDecl) := d.members.constructors.filter (·.visibility ≠ .privately)
    (∀ q, q ≠ Query.singletons → ∀ t u, t ≤ u →
      q.run us u = (q.run us t).filter (Attains u) ∧ (q.run us u).Sublist (q.run us t)) ∧
      (∀ q, q ≠ Query.singletons → ∀ l ∈ q.run us 0, ∃ k, l.value = .count k ∧
        ∀ t : Threshold, l ∈ q.run us t ↔ t.toNat ≤ k) ∧
      Query.manyConstructors.run us 0 =
        classes.map (fun d => ⟨d.qualifiedName, .count (openOf d).length⟩) ∧
      Query.manyParameters.run us 0 = classes.flatMap (fun d =>
        (openOf d).map fun c => ⟨d.qualifiedName ++ "." ++ c.signature, .count c.parameters.length⟩) ∧
      ∀ us', List.Forall₂ SameOpen (us.flatMap (·.types)) (us'.flatMap (·.types)) →
        ∀ q, q ≠ Query.singletons → ∀ t, q.run us' t = q.run us t := by
  intro classes openOf
  refine ⟨fun q hq t u htu => ?_, fun q hq l hl => ?_, ?_, ?_, fun us' hus' q hq t => ?_⟩
  · have hfilter : q.run us u = (q.run us t).filter (Attains u) := by
      rw [run_eq_filter hq us u, run_eq_filter hq us t, List.filter_filter]
      refine List.filter_congr fun l _ => ?_
      rw [Bool.eq_iff_iff, Bool.and_eq_true, decide_eq_true_iff, decide_eq_true_iff]
      exact ⟨fun h => ⟨h, h.mono htu⟩, fun h => h.1⟩
    refine ⟨hfilter, ?_⟩
    rw [hfilter]
    exact List.filter_sublist
  · rw [run_zero hq] at hl
    obtain ⟨k, hk, -⟩ := attains_zero hl
    refine ⟨k, hk, fun t => ?_⟩
    rw [run_eq_filter hq, List.mem_filter, decide_eq_true_iff, attains_iff_of_count hk]
    exact ⟨fun h => h.2, fun h => ⟨hl, h⟩⟩
  · refine (manyConstructors_zero us).trans (List.map_congr_left fun d _ => ?_)
    rw [openConstructors_eq_filter]
  · refine (manyParameters_zero us).trans ?_
    rw [← List.flatMap_def]
    refine List.flatMap_congr fun d _ => ?_
    rw [constructorLines, openConstructors_eq_filter]
  · rw [run_eq_filter hq us' t, run_eq_filter hq us t, openClasses_eq_of_sameOpen hus']

/-- The same session without a private constructor, and with a constructor in an enum. -/
def sameOpenUnits : List CompilationUnit := [
  ⟨"A.java", some "p", [
    .classLike .ordinary {
      Members.named "A" (some "p") with
      constructors := [⟨.publicly, "A", [⟨"int", "n", false⟩]⟩, ⟨.package, "A", []⟩] },
    .enumeration ["INSTANCE"] {
      Members.named "E" (some "p.A") with
      constructors := [⟨.privately, "E", []⟩] }]⟩,
  ⟨"B.java", some "p", [.classLike .interface (.named "I" (some "p")),
    .classLike .ordinary {
      Members.named "A" (some "p") with
      constructors := [⟨.protectedly, "A", [⟨"int", "n", true⟩]⟩] }]⟩]

theorem sameOpen_sampleSession :
    List.Forall₂ SameOpen (sampleSession.units.flatMap (·.types)) (sameOpenUnits.flatMap (·.types)) :=
  .cons (.classLike rfl (by decide)) (.cons .enumeration
    (.cons (.classLike rfl (by decide)) (.cons (.classLike rfl (by decide)) .nil)))

theorem thresholds_sampleSession :
    Query.manyConstructors.run sampleSession.units 2 =
        (Query.manyConstructors.run sampleSession.units 1).filter (Attains 2) ∧
      (Query.manyConstructors.run sampleSession.units 2).map (·.render) = ["p.A : 2"] ∧
      (∃ k, Value.count 2 = .count k ∧
        ∀ t : Threshold, ⟨"p.A", .count 2⟩ ∈ Query.manyConstructors.run sampleSession.units t ↔ t.toNat ≤ k) ∧
      (Query.manyParameters.run sameOpenUnits 1).map (·.render) = ["p.A.A(int) : 1", "p.A.A(int...) : 1"] ∧
      Query.manyParameters.run sameOpenUnits 1 = Query.manyParameters.run sampleSession.units 1 := by
  obtain ⟨hfilter, hcount, -, -, hsame⟩ := thresholds_only_filter sampleSession.units
  have hlines : Query.manyConstructors.run sampleSession.units 0 =
      [⟨"p.A", .count 2⟩, ⟨"p.I", .count 0⟩, ⟨"p.A", .count 1⟩] := by decide +kernel
  have hline : ⟨"p.A", .count 2⟩ ∈ Query.manyConstructors.run sampleSession.units 0 := by simp [hlines]
  exact ⟨(hfilter .manyConstructors (by decide) 1 2 (by decide)).1, by decide +kernel,
    hcount .manyConstructors (by decide) _ hline, by decide +kernel,
    hsame _ sameOpen_sampleSession .manyParameters (by decide) 1⟩

end TypeCensus.Report
