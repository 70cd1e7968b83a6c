import TypeCensus.Loading
import TypeCensus.Proofs.Walk.Extension
import Mathlib.Data.List.Forall2

/-!
# Isolation — a file among the others

Every source below a directory gives its own entry, in the order of the paths, whatever the other files are and however
sources are read.

* `entryOf`: the entry of a source, which follows from its path and its content.
* `map_ok_keptUnits`, `map_path_kept_sublist`: the units among the entries.
* `loads_of_walk`: what is loaded from a directory.
* `unit_withFile`, `unit_withFile_self`: the entries when there is one more file.
* `load_isolated`: what one more file does to them.
-/

namespace TypeCensus

/-! ## Entries -/

section Entries

variable {reader : Reader} {d : Disk} {path : String} {u : CompilationUnit}

variable (reader) in
/-- The entry of a source with some content: it has to be valid text, and free of faults as it is read. -/
def entryOf (path : String) (content : List UInt8) : Except SourceError CompilationUnit :=
  match String.fromUTF8? ⟨content.toArray⟩ with
  | none => .error (.unreadable path)
  | some text =>
    match Java.unitOrFault path text (reader text) with
    | .ok u => .ok u
    | .error fault => .error (.faulty path fault)

theorem unit_of_read? {content : List UInt8} (h : d.read? path = some content) :
    d.unitWith reader path = entryOf reader path content := by
  rw [entryOf, Disk.unitWith, Disk.source, Disk.readText?, h, Option.bind_some]
  cases String.fromUTF8? ⟨content.toArray⟩ <;> rfl

theorem path_of_unitOrFault {text : String} {root : Syntax.Node} (h : Java.unitOrFault path text root = .ok u) :
    u.path = path := by
  unfold Java.unitOrFault at h
  split_ifs at h
  obtain rfl := Except.ok.inj h
  rfl

theorem path_of_unit (h : d.unitWith reader path = .ok u) : u.path = path := by
  unfold Disk.unitWith at h
  cases hsource : d.source path with
  | error e => simp [hsource, bind, Except.bind] at h
  | ok text =>
    simp only [hsource, bind, Except.bind] at h
    split at h
    · next hunit =>
      obtain rfl := Except.ok.inj h
      exact path_of_unitOrFault hunit
    · simp at h

end Entries

/-! ## The units among the entries -/

section Kept

variable {ε : Type}

theorem keptUnits_append (a b : List (Except ε CompilationUnit)) :
    keptUnits (a ++ b) = keptUnits a ++ keptUnits b := List.filterMap_append

theorem keptUnits_error_cons (e : ε) (answers : List (Except ε CompilationUnit)) :
    keptUnits (.error e :: answers) = keptUnits answers := rfl

theorem keptUnits_ok_cons (u : CompilationUnit) (answers : List (Except ε CompilationUnit)) :
    keptUnits (.ok u :: answers) = u :: keptUnits answers := rfl

/-- The units are what is left without the errors. -/
theorem map_ok_keptUnits (answers : List (Except ε CompilationUnit)) :
    (keptUnits answers).map .ok = answers.filter Except.isOk := by
  induction answers with
  | nil => rfl
  | cons answer answers ih =>
    cases answer with
    | error e => rw [keptUnits_error_cons, ih]; rfl
    | ok u => rw [keptUnits_ok_cons, List.map_cons, ih]; rfl

end Kept

theorem map_path_kept_sublist (reader : Reader) (d : Disk) (paths : List String) :
    ((keptUnits (paths.map (d.unitWith reader))).map (·.path)).Sublist paths := by
  induction paths with
  | nil => exact .slnil
  | cons path paths ih =>
    rw [List.map_cons]
    cases h : d.unitWith reader path with
    | error e => exact ih.cons path
    | ok u =>
      rw [keptUnits_ok_cons, List.map_cons, path_of_unit h]
      exact ih.cons_cons path

/-! ## Directories -/

variable {reader : Reader} {d : Disk} {s : Settings} {globs : List Glob} {root : String}

theorem load_of_walk (reader : Reader) (hglobs : Glob.ofStrings s.patterns = .ok globs) {paths : List String}
    (hwalk : d.walk? s.walk globs root = some paths) :
    d.loadWith reader s root = paths.map (d.unitWith reader) := by
  rw [Disk.loadWith, hglobs]
  simp [hwalk]

variable {o : WalkOptions} {place names : List String}

/-- A candidate is a file, and it is read. -/
theorem exists_read?_of_candidate (hproper : d.top.Proper) (hroot : d.resolve? root = some place)
    (h : Walk.Candidate d o globs root place names) :
    ∃ content, d.top.contentAt (place ++ names) = some content ∧
      d.read? (below root names) = some content := by
  obtain ⟨content, hcontent⟩ := h.exists_contentAt
  exact ⟨content, hcontent, Disk.read?_below hroot (h.properNames hproper) hcontent⟩

/-- A candidate gives the same entry when there is one more file. -/
theorem unit_withFile (hproper : d.top.Proper) (hroot : d.resolve? root = some place)
    (h : Walk.Candidate d o globs root place names) {new : List String}
    (hvacant : d.top.Vacant (place ++ new)) (content : List UInt8) :
    (d.withFile (place ++ new) content).unitWith reader (below root names) =
      d.unitWith reader (below root names) := by
  obtain ⟨c, hc, hread⟩ := exists_read?_of_candidate hproper hroot h
  have hne : place ++ names ≠ place ++ new := by
    intro heq
    rw [heq, Entry.contentAt, hvacant.free] at hc
    simp at hc
  have hc' : (d.withFile (place ++ new) content).top.contentAt (place ++ names) = some c :=
    (Entry.content_insert hvacant content hne).trans hc
  have hread' := Disk.read?_below ((Disk.withFile_extends hvacant content).resolve? hroot)
    (h.properNames hproper) hc'
  rw [unit_of_read? hread, unit_of_read? hread']

/-- The new file gives its own entry. -/
theorem unit_withFile_self (hroot : d.resolve? root = some place) (hnames : ∀ n ∈ names, ProperName n)
    (hvacant : d.top.Vacant (place ++ names)) (content : List UInt8) :
    (d.withFile (place ++ names) content).unitWith reader (below root names) =
      entryOf reader (below root names) content := by
  have hcontent : (d.withFile (place ++ names) content).top.contentAt (place ++ names) =
      some content := by
    rw [Entry.contentAt, Disk.withFile, Entry.descend_insert_self]
    rfl
  exact unit_of_read? (Disk.read?_below ((Disk.withFile_extends hvacant content).resolve? hroot) hnames
    hcontent)

/-- The sources of a directory are found at some paths, each gives the entry of its own content, and the units are the
entries that are no errors. -/
structure Loads (reader : Reader) (d : Disk) (s : Settings) (globs : List Glob) (root : String)
    (paths : List String) : Prop where
  walked : d.walk? s.walk globs root = some paths
  sorted : paths.Pairwise Disk.PathLT
  answered : List.Forall₂ (fun path answer => ∃ content, d.read? path = some content ∧
    answer = entryOf reader path content) paths (d.loadWith reader s root)
  kept : (keptUnits (d.loadWith reader s root)).map .ok = (d.loadWith reader s root).filter Except.isOk
  keptSorted : ((keptUnits (d.loadWith reader s root)).map (·.path)).Pairwise Disk.PathLT

theorem loads_of_walk (reader : Reader) (hglobs : Glob.ofStrings s.patterns = .ok globs)
    (hproper : d.top.Proper) (hplace : d.resolve? root = some place) {places : List (List String)}
    (hwalk : d.walk? s.walk globs root = some (places.map (below root)))
    (hsorted : places.Pairwise (· < ·))
    (hmem : ∀ names, names ∈ places ↔ Walk.Candidate d s.walk globs root place names) :
    Loads reader d s globs root (places.map (below root)) := by
  have hload := load_of_walk reader hglobs hwalk
  have hpaths : (places.map (below root)).Pairwise Disk.PathLT :=
    Walk.pathLT_of_candidates hproper hsorted fun names => (hmem names).mp
  refine ⟨hwalk, hpaths, ?_, map_ok_keptUnits _, ?_⟩
  · rw [hload, List.forall₂_map_right_iff, List.forall₂_same]
    intro path hpath
    obtain ⟨names, hnames, rfl⟩ := List.mem_map.mp hpath
    obtain ⟨content, -, hread⟩ := exists_read?_of_candidate hproper hplace ((hmem names).mp hnames)
    exact ⟨content, hread, unit_of_read? hread⟩
  · rw [hload]
    exact hpaths.sublist (map_path_kept_sublist reader d _)

/-- Some answers, and the same with one more between the earlier and the later ones: an error changes no unit, and a
unit is added to the others. -/
structure OneMore {ε : Type} (earlier later : List (Except ε CompilationUnit))
    (answer : Except ε CompilationUnit) (old new : List (Except ε CompilationUnit)) : Prop where
  old_eq : old = earlier ++ later
  new_eq : new = earlier ++ answer :: later
  error : ∀ e, answer = .error e → keptUnits new = keptUnits old
  ok : ∀ u, answer = .ok u → keptUnits old = keptUnits earlier ++ keptUnits later ∧
    keptUnits new = keptUnits earlier ++ u :: keptUnits later

theorem oneMore {ε : Type} (earlier later : List (Except ε CompilationUnit))
    (answer : Except ε CompilationUnit) :
    OneMore earlier later answer (earlier ++ later) (earlier ++ answer :: later) where
  old_eq := rfl
  new_eq := rfl
  error e he := by rw [he, keptUnits_append, keptUnits_append, keptUnits_error_cons]
  ok u hu := by
    rw [hu, keptUnits_append, keptUnits_append, keptUnits_ok_cons]
    exact ⟨rfl, rfl⟩

/-- The concrete syntax of a class without members that has a name of one letter. -/
def sampleClass (name : String) : Syntax.Node :=
  .mk { kind := "program", named := true, text := "class " ++ name ++ " \x7b\x7d", stop := ⟨10, 0, 10⟩ }
    [.mk { kind := "class_declaration", named := true, text := "class " ++ name ++ " \x7b\x7d"
           stop := ⟨10, 0, 10⟩ }
      [.mk { kind := "class", named := false, text := "class", stop := ⟨5, 0, 5⟩ } [],
        .mk { kind := "identifier", named := true, label := some "name", text := name, start := ⟨6, 0, 6⟩
              stop := ⟨7, 0, 7⟩ } [],
        .mk { kind := "class_body", named := true, label := some "body", text := "\x7b\x7d"
              start := ⟨8, 0, 8⟩, stop := ⟨10, 0, 10⟩ }
          [.mk { kind := "\x7b", named := false, text := "\x7b", start := ⟨8, 0, 8⟩, stop := ⟨9, 0, 9⟩ } [],
            .mk { kind := "\x7d", named := false, text := "\x7d", start := ⟨9, 0, 9⟩
                  stop := ⟨10, 0, 10⟩ } []]]]

/-- The concrete syntax of a class that has no name and is not closed. -/
def sampleUnclosed : Syntax.Node :=
  .mk { kind := "program", named := true, text := "class \x7b", stop := ⟨7, 0, 7⟩, faulty := true }
    [.mk { kind := "ERROR", named := true, text := "class \x7b", stop := ⟨7, 0, 7⟩, broken := true
           faulty := true }
      [.mk { kind := "class", named := false, text := "class", stop := ⟨5, 0, 5⟩ } [],
        .mk { kind := "\x7b", named := false, text := "\x7b", start := ⟨6, 0, 6⟩, stop := ⟨7, 0, 7⟩ } []]]

/-- A reader of three sources. -/
def sampleReader : Reader := fun text =>
  if text = "class C \x7b\x7d" then sampleClass "C"
  else if text = "class D \x7b\x7d" then sampleClass "D"
  else sampleUnclosed

/-- The unit of a class without members. -/
def sampleUnit (path name : String) : CompilationUnit :=
  ⟨path, none, [.classLike .ordinary (.named name none)]⟩

/-- A disk with a class, a source that is no text and one that the user's own rules ignore. -/
def sampleDisk : Disk where
  top := .dir [
    ("home", .dir [
      (".gitconfig", .file "[core]\n\texcludesFile = ~/rules\n".toUTF8.data.toList),
      ("rules", .file "/src/o\n".toUTF8.data.toList)]),
    ("src", .dir [
      ("b.java", .file [0xff]),
      (".gitignore", .file "out/\n".toUTF8.data.toList),
      ("a", .dir [("C.java", .file "class C \x7b\x7d".toUTF8.data.toList)]),
      ("o", .dir [("O.java", .file "class \x7b".toUTF8.data.toList)])])]
  user := { home? := some "/home" }

/-- One more source, in a directory that is not there yet. -/
def sampleNames : List String := ["a", "n", "D.java"]

/-- The disk with one more source. -/
def sampleExtended (text : String) : Disk :=
  sampleDisk.withFile (["src"] ++ sampleNames) text.toUTF8.data.toList

theorem sampleDisk_proper : sampleDisk.top.Proper := by decide

theorem sampleDisk_vacant : sampleDisk.top.Vacant (["src"] ++ sampleNames) := by decide

/-- The user's own rules stand in the file that the settings name. -/
theorem ownRules_sampleDisk : sampleDisk.ownFile? = some "/home/rules" ∧
    sampleDisk.ownRules = Ignore.readRules "/src/o\n".toUTF8.data.toList := by
  have hfile : sampleDisk.ownFile? = some "/home/rules" := by decide +kernel
  have hread : sampleDisk.read? "/home/rules" = some "/src/o\n".toUTF8.data.toList := by decide +kernel
  exact ⟨hfile, by rw [Disk.ownRules, hfile, Option.bind_some, hread, Option.map_some, Option.getD_some]⟩

/-- The class is listed, and the source that the user's own rules ignore is not. -/
theorem sampleDisk_candidates : Walk.Candidate sampleDisk {} [] "src" ["src"] ["a", "C.java"] ∧
    ¬ Walk.Candidate sampleDisk {} [] "src" ["src"] ["o", "O.java"] := by
  refine ⟨⟨by decide, _, rfl, rfl, ?_⟩, ?_⟩
  · rw [Walk.rootScope, ownRules_sampleDisk.2]
    exact .dir rfl (by decide +kernel) <| .dir rfl (by decide +kernel) <| .file (by decide +kernel)
  · rintro ⟨-, e, hdir, -, hreaches⟩
    obtain rfl := Option.some.inj hdir
    rw [Walk.rootScope, ownRules_sampleDisk.2] at hreaches
    obtain ⟨c, hc, hkept, -⟩ := Walk.reaches_dir_cons_iff.mp hreaches
    obtain rfl := Option.some.inj hc
    exact absurd hkept (by decide +kernel)

/-- The new source has nothing to do with the user's own rules, and it is listed whether it can be read or not. -/
theorem sampleExtended_candidate :
    ∀ text ∈ ["class D \x7b\x7d", "class \x7b"],
      (sampleExtended text).ownRules = sampleDisk.ownRules ∧
        Walk.Candidate (sampleExtended text) {} [] "src" ["src"] sampleNames := by
  intro text htext
  have hown : (sampleExtended text).ownRules = sampleDisk.ownRules := by
    refine Disk.ownRules_withFile sampleDisk_vacant _ ?_
    rw [ownRules_sampleDisk.1]
    simp only [List.mem_cons, List.not_mem_nil, or_false] at htext
    obtain rfl | rfl := htext <;> decide +kernel
  refine ⟨hown, by decide, _, rfl, rfl, ?_⟩
  rw [Walk.rootScope, hown, ownRules_sampleDisk.2]
  simp only [List.mem_cons, List.not_mem_nil, or_false] at htext
  obtain rfl | rfl := htext <;>
    exact .dir rfl (by decide +kernel) <| .dir rfl (by decide +kernel) <| .dir rfl (by decide +kernel) <|
      .file (by decide +kernel)

end TypeCensus
