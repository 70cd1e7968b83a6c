import TypeCensus.Batch
import TypeCensus.Proofs.Console.Texts
import TypeCensus.Proofs.Java.Layout
import TypeCensus.Proofs.Report.Decoding
import TypeCensus.Proofs.Report.Views

/-!
# Layout — reports on sources that are laid out in any way

A report is a line for each subject, and a subject is made of packages, names and types of parameters.  Where the names
hold no line break, no line does, and a report falls into its lines again at the line breaks.

* `notMem_subject`, `notMem_render`: what is in no text of a type is in no line about it.
* `splitOn_writeLines`: lines that are written one after the other are found again.
* `free_of_layout`: what the layout of a source has to do with units and reports.
-/

namespace TypeCensus.Report

open Java (NamesLack Reset Respaced Spelled TextsLack unitOf)
open Syntax (Node)
open Text (blankRanges flat_of_all isBlank)

/-- The units of some sources, each with its path. -/
def unitsOf (sources : List (String × Node)) : List CompilationUnit := sources.map fun s => unitOf s.1 s.2

/-- A character is in no line of a report on some units, and in no line of their listing. -/
structure LinesLack (b : Char) (us : List CompilationUnit) : Prop where
  report : ∀ (q : Query) (t : Threshold), ∀ l ∈ q.run us t, b ∉ l.render.toList
  listing : ∀ line ∈ (⟨some us⟩ : Session).listing, b ∉ line.toList

section Lack

variable {b : Char} (hblank : isBlank b = true) (hb : b ≠ ' ') {us : List CompilationUnit}
  (hus : ∀ d ∈ allTypes us, TextsLack b d)

include hblank hb hus

theorem notMem_subject (q : Query) (t : Threshold) : ∀ l ∈ q.run us t, b ∉ l.subject.toList := by
  have hclass : ∀ ms ∈ allClasses us, b ∉ ms.qualifiedName.toList ∧
      ∀ c ∈ ms.constructors, b ∉ c.signature.toList := by
    intro ms hms
    rw [allClasses_eq_map] at hms
    obtain ⟨d, hd, rfl⟩ := List.mem_map.mp hms
    obtain ⟨hname, hsignature⟩ := hus d (List.mem_filter.mp hd).1
    exact ⟨hname, hsignature⟩
  intro l hl
  cases q with
  | manyConstructors =>
    obtain ⟨ms, hms, hl⟩ := List.mem_filterMap.mp hl
    dsimp only at hl
    split_ifs at hl
    obtain rfl := Option.some.inj hl
    exact (hclass ms hms).1
  | manyParameters =>
    obtain ⟨ms, hms, hl⟩ := List.mem_flatMap.mp hl
    obtain ⟨c, hc, hl⟩ := List.mem_filterMap.mp hl
    dsimp only at hl
    split_ifs at hl
    obtain rfl := Option.some.inj hl
    have hdot : b ∉ ".".toList := (flat_of_all (by decide)).notMem hblank hb
    simp only [String.toList_append, List.mem_append, not_or]
    exact ⟨⟨(hclass ms hms).1, hdot⟩, (hclass ms hms).2 c (List.mem_filter.mp hc).1⟩
  | singletons =>
    obtain ⟨d, hd, hl⟩ := List.mem_filterMap.mp hl
    obtain ⟨s, -, rfl⟩ := Option.map_eq_some_iff.mp hl
    exact (hus d hd).qualifiedName

theorem notMem_render (q : Query) (t : Threshold) : ∀ l ∈ q.run us t, b ∉ l.render.toList := by
  intro l hl
  have hcolon : b ∉ " : ".toList := (flat_of_all (by decide)).notMem hblank hb
  have hvalue : b ∉ l.value.render.toList := by
    intro hmem
    simp [not_isBlank_of_mem_render hmem] at hblank
  simp only [Line.render, String.toList_append, List.mem_append, not_or]
  exact ⟨⟨notMem_subject hblank hb hus q t l hl, hcolon⟩, hvalue⟩

theorem linesLack_of_textsLack : LinesLack b us := by
  refine ⟨notMem_render hblank hb hus, fun line hline => ?_⟩
  unfold Session.listing at hline
  split at hline
  · obtain rfl := List.mem_singleton.mp hline
    exact (flat_of_all (by decide)).notMem hblank hb
  · obtain ⟨d, hd, rfl⟩ := List.mem_map.mp hline
    exact (hus d hd).qualifiedName

end Lack

/-- A blank that is in no name of some sources is in no line about them either, unless it is a space. -/
theorem linesLack_unitsOf {b : Char} (hblank : isBlank b = true) (hb : b ≠ ' ') {sources : List (String × Node)}
    (hnames : ∀ s ∈ sources, NamesLack b s.2) : LinesLack b (unitsOf sources) := by
  refine linesLack_of_textsLack hblank hb fun d hd => ?_
  obtain ⟨u, hu, hd⟩ := List.mem_flatMap.mp hd
  obtain ⟨s, hs, rfl⟩ := List.mem_map.mp hu
  exact Java.textsLack_of_mem_unitOf hblank hb (hnames s hs) hd

/-! ## Line breaks in a report -/

/-- Lines that are written one after the other are found again.  After the last line feed there is nothing. -/
theorem splitOn_textOf {ls : List String} (h : ∀ l ∈ ls, '\n' ∉ l.toList) :
    (Sink.bytesOf (Sink.textOf ls)).splitOn Console.lineFeed = ls.map Sink.bytesOf ++ [[]] := by
  induction ls with
  | nil => rfl
  | cons l ls ih =>
    have hfeed : Console.lineFeed ∉ Sink.bytesOf l := fun hmem =>
      h l (by simp) (Console.mem_of_mem_bytesOf hmem (by decide))
    have hbytes : Sink.bytesOf (Sink.textOf (l :: ls)) =
        Sink.bytesOf l ++ Console.lineFeed :: Sink.bytesOf (Sink.textOf ls) := by
      rw [Sink.textOf_cons, Sink.bytesOf_append, Sink.bytesOf_append, List.append_assoc]
      rfl
    rw [hbytes, List.splitOn_append_cons_self_of_not_mem hfeed, ih fun m hm => h m (by simp [hm])]
    rfl

/-- The same of a sink without a limit. -/
theorem splitOn_writeLines {ls : List String} (h : ∀ l ∈ ls, '\n' ∉ l.toList) :
    (Sink.writeLines {} ls).1.written.splitOn Console.lineFeed = ls.map Sink.bytesOf ++ [[]] := by
  rw [Sink.writeLines_eq_writeBytes]
  exact splitOn_textOf h

/-- **Layout.**  Packages and types of parameters are words with single spaces between them.  Other blanks between these
words do not change a unit.  Where the names in some sources hold no line break, no line of a report and no line of a
listing does, and the output of a batch run falls into the lines of its report at the line breaks.  The same holds of all
other blanks but the space. -/
theorem free_of_layout :
    (∀ path root, Spelled root (unitOf path root)) ∧
    (∀ path root root', Respaced root root' → unitOf path root' = unitOf path root) ∧
    (∀ b sources, isBlank b = true → b ≠ ' ' → (∀ s ∈ sources, NamesLack b s.2) →
      LinesLack b (unitsOf sources)) ∧
    ∀ (ε : Type) (provider : Provider Id ε) (request : Batch.Request) (sources : List (String × Node)),
      (∀ s ∈ sources, NamesLack '\n' s.2) → keptUnits (provider request.dir) = unitsOf sources →
        (Batch.run provider request {}).run.1.written.splitOn Console.lineFeed =
          ((request.query.run (unitsOf sources) request.threshold).map fun l => Sink.bytesOf l.render) ++ [[]] := by
  refine ⟨Java.spelled_unitOf, fun path _ _ h => Java.unitOf_respaced h path,
    fun _ _ hblank hb => linesLack_unitsOf hblank hb, ?_⟩
  intro ε provider request sources hnames hunits
  have hlines : LinesLack '\n' (unitsOf sources) := linesLack_unitsOf (by decide) (by decide) hnames
  have hrun : (Batch.run provider request {}).run.1 =
      (Sink.writeLines {} ((request.query.run (unitsOf sources) request.threshold).map Line.render)).1 := by
    rw [← hunits]
    rfl
  have hlack : ∀ line ∈ (request.query.run (unitsOf sources) request.threshold).map Line.render,
      '\n' ∉ line.toList := by
    intro line hline
    obtain ⟨l, hl, rfl⟩ := List.mem_map.mp hline
    exact hlines.report request.query request.threshold l hl
  rw [hrun, splitOn_writeLines hlack, List.map_map]
  rfl

/-! ## A source on more lines -/

/-- A node without children. -/
def leaf (kind : String) (label : Option String) (text : String) : Node :=
  .mk { kind, named := true, label, text } []

/-- A source with a package and a class whose constructor has a parameter.  A gap stands in the package, and in the type
and the dimensions of the parameter. -/
def laidOut (gap : String) : Node :=
  .mk { kind := "program", named := true }
    [.mk { kind := "package_declaration", named := true } [leaf "scoped_identifier" none ("a" ++ gap ++ ".b")],
      Java.bodied "class_declaration" "A"
        [.mk { kind := "constructor_declaration", named := true }
          [leaf "identifier" (some "name") "A",
            .mk { kind := "formal_parameters", named := true, label := some "parameters" }
              [.mk { kind := "formal_parameter", named := true }
                [leaf "generic_type" (some "type") ("Map<K," ++ gap ++ "V>"), leaf "identifier" (some "name") "m",
                  leaf "dimensions" (some "dimensions") ("[]" ++ gap ++ "[]")]]]]]

/-- One blank or several ones. -/
def Gap (gap : String) : Prop := gap.toList ≠ [] ∧ ∀ c ∈ gap.toList, isBlank c = true

theorem respaced_laidOut {g g' : String} (hg : Gap g) (hg' : Gap g') : Respaced (laidOut g) (laidOut g') := by
  have hleaf {kind : String} {label : Option String} (hlabel : label ≠ some "name") (s t : String) :
      Reset (leaf kind label (s ++ g ++ t)) (leaf kind label (s ++ g' ++ t)) := by
    have htext : Text.Respaced (s ++ g ++ t).toList (s ++ g' ++ t).toList := by
      simp only [String.toList_append, List.append_assoc]
      exact .append_left s.toList (.blanks hg.1 hg'.1 hg.2 hg'.2 (.refl t.toList))
    exact Java.reset_mk htext (fun hname => absurd hname hlabel) .nil
  have hparameter {i : Node.Info} {name t t' m m' : Node} (ht : Reset t t') (hm : Reset m m') :
      Reset (.mk i [t, name, m]) (.mk i [t', name, m']) :=
    Java.reset_children (.cons ht (.cons (.refl name) (.cons hm .nil)))
  have hconstructor {i j : Node.Info} {name c c' : Node} (h : Reset c c') :
      Reset (.mk i [name, .mk j [c]]) (.mk i [name, .mk j [c']]) :=
    Java.reset_children (.cons (.refl name) (.cons (Java.reset_children (.cons h .nil)) .nil))
  have hpackage {i : Node.Info} {c c' : Node} (h : Reset c c') : Reset (.mk i [c]) (.mk i [c']) :=
    Java.reset_children (.cons h .nil)
  have hroot : Reset (laidOut g) (laidOut g') :=
    Java.reset_children (.cons (hpackage (hleaf (by decide) "a" ".b")) (.cons (Java.reset_bodied (.cons
      (hconstructor (hparameter (hleaf (by decide) "Map<K," "V>") (hleaf (by decide) "[]" "[]"))) .nil)) .nil))
  exact hroot.respaced

/-- A source on several lines. -/
def sampleSources : List (String × Node) := [("A.java", laidOut "\n\t")]

/-- A report on the parameters of constructors. -/
def sampleRequest : Batch.Request := ⟨"src", .manyParameters, 1⟩

/-- Answers with a source on several lines. -/
def sampleProvider : Provider Id String := fun _ => pure ((unitsOf sampleSources).map .ok)

/-- A constructor that stands on several lines is reported on one. -/
theorem free_of_layout_laidOut :
    Spelled (laidOut "\n\t") (unitOf "A.java" (laidOut "\n\t")) ∧
      Respaced (laidOut " ") (laidOut "\n\t") ∧
      unitOf "A.java" (laidOut "\n\t") = unitOf "A.java" (laidOut " ") ∧
      (∀ s ∈ sampleSources, NamesLack '\n' s.2) ∧
      LinesLack '\n' (unitsOf sampleSources) ∧
      (Batch.run sampleProvider sampleRequest {}).run.1.written.splitOn Console.lineFeed =
        [Sink.bytesOf "a .b.A.A(Map<K, V>[] []) : 1", []] := by
  obtain ⟨hspelled, hrespaced, hlines, hbatch⟩ := free_of_layout
  have hspace : Gap " " := ⟨by simp, by simp [isBlank, blankRanges]⟩
  have hbreak : Gap "\n\t" := ⟨by simp, by simp [isBlank, blankRanges]⟩
  have hgaps : Respaced (laidOut " ") (laidOut "\n\t") := respaced_laidOut hspace hbreak
  have hnames : ∀ s ∈ sampleSources, NamesLack '\n' s.2 := by decide +kernel
  have hreport : sampleRequest.query.run (unitsOf sampleSources) sampleRequest.threshold =
      [⟨"a .b.A.A(Map<K, V>[] [])", .count 1⟩] := by decide +kernel
  have hsplit := hbatch String sampleProvider sampleRequest sampleSources hnames rfl
  rw [hreport] at hsplit
  exact ⟨hspelled _ _, hgaps, hrespaced _ _ _ hgaps, hnames, hlines _ _ (by decide) (by decide) hnames, hsplit⟩

end TypeCensus.Report
