import TypeCensus.Proofs.Glob.Lists
import TypeCensus.Proofs.Walk.Listing
import Mathlib.Order.Interval.Set.OrdConnected

/-!
# Patterns — the order of a walk, and what patterns do to it

Patterns have no say in where a walk goes.  They only take sources out of its listing, one by one, and whatever else
decides about an entry, an ignore file or a hidden name, comes to the same with them and without.

* `sourcesOf_append`, `walk?_append`: more patterns leave those sources that none of them matches.
* `filter_infix`: members of a sorted list that fill an interval are consecutive.
* `walk_in_order`: the listing is in order, and patterns filter it.
-/

namespace TypeCensus.Walk

/-- Whether no pattern matches a path. -/
def unmatched (patterns : List Glob) (path : String) : Bool := patterns.all fun g => !g.matchesPath path

/-! ## More patterns -/

section Filter

variable {o : WalkOptions} {ps qs : List Glob}

theorem unmatched_congr (h : ∀ g, g ∈ ps ↔ g ∈ qs) : unmatched ps = unmatched qs := by
  funext path
  rw [Bool.eq_iff_iff, unmatched, unmatched, List.all_eq_true, List.all_eq_true]
  simp only [h]

theorem isSource_append (path name : String) :
    isSource (ps ++ qs) path name = (isSource ps path name && unmatched qs path) := by
  rw [isSource, isSource, unmatched, ← List.not_any_eq_all_not, List.any_append, Bool.not_or,
    Bool.and_assoc]

/-- The sources of an entry with more patterns are those that none of them matches. -/
theorem sourcesOf_append : (e : Entry) → ∀ (s : Scope) (path name : String),
    sourcesOf o (ps ++ qs) s path name e = (sourcesOf o ps s path name e).filter (unmatched qs)
  | .file content, s, path, name => by
    rw [sourcesOf, sourcesOf, isSource_append]
    cases isSource ps path name <;> cases hq : unmatched qs path <;> simp [hq]
  | .dir es, s, path, name => by
    rw [sourcesOf_dir, sourcesOf_dir, List.filter_flatMap]
    refine List.flatMap_congr fun x hx => ?_
    have hlt := List.sizeOf_lt_of_mem (List.mem_mergeSort.mp hx)
    obtain ⟨n, e⟩ := x
    dsimp only
    -- an entry is left out or entered alike: its scope knows nothing of the patterns
    rw [sourcesOf_append e]
    split <;> rfl
termination_by e => sizeOf e
decreasing_by simp_wf; simp only [Prod.mk.sizeOf_spec] at hlt; omega

theorem walk?_append (d : Disk) (root : String) :
    d.walk? o (ps ++ qs) root = (d.walk? o ps root).map (·.filter (unmatched qs)) := by
  cases hroot : d.resolve? root with
  | none => simp [Disk.walk?, hroot]
  | some place =>
    rcases hdir : d.top.descend place with _ | content | es
    · simp [Disk.walk?, hroot, hdir]
    · simp [Disk.walk?, hroot, hdir]
    · rw [walk?_of_dir hroot hdir, walk?_of_dir hroot hdir, Option.map_some, sourcesOf_append]
      split <;> rfl

theorem walk?_eq_filter (o : WalkOptions) (ps : List Glob) (d : Disk) (root : String) :
    d.walk? o ps root = (d.walk? o [] root).map (·.filter (unmatched ps)) :=
  @walk?_append o [] ps d root

end Filter

/-! ## Consecutive members -/

section Consecutive

variable {α : Type} [PartialOrder α] {p : α → Bool} {l : List α}

/-- Members of a sorted list that fill an interval with something smaller come first. -/
theorem filter_prefix (h : Set.OrdConnected {x | p x = true}) (hsorted : l.Pairwise (· < ·)) {a : α}
    (ha : p a = true) (hsmaller : ∀ b ∈ l, a < b) : l.filter p <+: l := by
  induction l with
  | nil => exact List.nil_prefix
  | cons b l ih =>
    obtain ⟨hb, hsorted⟩ := List.pairwise_cons.mp hsorted
    cases hp : p b with
    | true =>
      rw [List.filter_cons_of_pos hp]
      exact List.cons_prefix_cons.mpr ⟨rfl, ih hsorted fun c hc => hsmaller c (by simp [hc])⟩
    | false =>
      have hnone : l.filter p = [] := by
        refine List.filter_eq_nil_iff.mpr fun c hc hpc => ?_
        have hbetween : p b = true := h.out ha hpc ⟨(hsmaller b (by simp)).le, (hb c hc).le⟩
        simp [hp] at hbetween
      rw [List.filter_cons_of_neg (by simp [hp]), hnone]
      exact List.nil_prefix

/-- Members of a sorted list that fill an interval are consecutive. -/
theorem filter_infix (h : Set.OrdConnected {x | p x = true}) (hsorted : l.Pairwise (· < ·)) :
    l.filter p <:+: l := by
  induction l with
  | nil => exact List.infix_refl []
  | cons a l ih =>
    obtain ⟨ha, hsorted⟩ := List.pairwise_cons.mp hsorted
    cases hp : p a with
    | true =>
      rw [List.filter_cons_of_pos hp]
      exact (List.cons_prefix_cons.mpr ⟨rfl, filter_prefix h hsorted hp ha⟩).isInfix
    | false =>
      rw [List.filter_cons_of_neg (by simp [hp])]
      exact (ih hsorted).trans (List.suffix_cons a l).isInfix

end Consecutive

/-- What stands between two places below a directory is below it too. -/
theorem prefix_of_between {dir a b c : List String} (ha : dir <+: a) (hc : dir <+: c) (hab : a ≤ b)
    (hbc : b ≤ c) : dir <+: b := by
  induction dir generalizing a b c with
  | nil => exact List.nil_prefix
  | cons n dir ih =>
    obtain ⟨a, rfl⟩ := ha
    obtain ⟨c, rfl⟩ := hc
    cases b with
    | nil => exact absurd hab (by simp)
    | cons m b =>
      rw [List.cons_append, ← not_lt, List.cons_lt_cons_iff, not_or] at hab hbc
      obtain rfl : m = n := le_antisymm (not_lt.mp hbc.1) (not_lt.mp hab.1)
      have hab' : dir ++ a ≤ b := not_lt.mp fun h => hab.2 ⟨rfl, h⟩
      have hbc' : b ≤ dir ++ c := not_lt.mp fun h => hbc.2 ⟨rfl, h⟩
      have hdir := ih (List.prefix_append dir a) (List.prefix_append dir c) hab' hbc'
      exact List.cons_prefix_cons.mpr ⟨rfl, hdir⟩

/-- The places below a directory fill an interval. -/
theorem ordConnected_isPrefixOf (dir : List String) :
    Set.OrdConnected {names | dir.isPrefixOf names = true} := by
  refine ⟨fun a ha c hc b ⟨hab, hbc⟩ => ?_⟩
  simp only [Set.mem_ofPred_eq, List.isPrefixOf_iff_prefix] at ha hc ⊢
  exact prefix_of_between ha hc hab hbc

/-! ## The listing -/

section Disks

variable {d : Disk} {o : WalkOptions} {root : String} {place names : List String} {gs : List Glob}

/-- A candidate is a source that no pattern matches, and every entry on the way to it is kept. -/
theorem candidate_iff_sought {es : List (String × Entry)} (hdash : root ≠ "-")
    (hdir : d.top.descend place = some (.dir es)) :
    Candidate d o gs root place names ↔ Sought d gs root place names ∧
      ∀ above n rest, names = above ++ n :: rest →
        Kept o (rootScope d o root place) root (.dir es) above n := by
  rw [candidate_iff hdir, reaches_iff, sought_iff hdir, and_assoc]
  exact and_iff_right hdash

theorem Candidate.sought (h : Candidate d o gs root place names) : Sought d gs root place names := by
  have ⟨hdash, e, hdir, hisDir, _⟩ := h
  cases e with
  | file content => simp [Entry.isDir] at hisDir
  | dir es => exact ((candidate_iff_sought hdash hdir).mp h).1

/-- **A walk in order, and patterns as a filter.**  A walk lists sources below its root, which are files with the
extension and match no pattern, in strictly increasing order of their paths, so that none is listed twice and those
below any one directory are consecutive.  More patterns leave, of this listing, what none of them matches.  The order
of the patterns, and whether one is given twice, does not matter. -/
theorem walk_in_order (hproper : d.top.Proper) (hroot : d.isDir root = true) (o : WalkOptions)
    {ps : List String} (hps : Glob.ofStrings ps = .ok gs) :
    ∃ place places, d.resolve? root = some place ∧
      d.walk? o gs root = some (places.map (below root)) ∧
      (places.map (below root)).Pairwise Disk.PathLT ∧
      (∀ dir : List String, places.filter dir.isPrefixOf <:+: places) ∧
      (∀ names ∈ places, Sought d gs root place names) ∧
      (∀ qs hs, Glob.ofStrings qs = .ok hs → Glob.ofStrings (ps ++ qs) = .ok (gs ++ hs) ∧
        d.walk? o (gs ++ hs) root = some ((places.map (below root)).filter (unmatched hs))) ∧
      ∀ qs, (∀ p, p ∈ qs ↔ p ∈ ps) →
        ∃ hs, Glob.ofStrings qs = .ok hs ∧ d.walk? o hs root = d.walk? o gs root := by
  obtain ⟨place, es, hplace, hdir⟩ := Disk.exists_place_of_isDir hroot
  obtain ⟨places, hwalk, hsorted, hmem⟩ := exists_walk?_eq o gs hproper hplace hdir
  refine ⟨place, places, hplace, hwalk, ?_, fun dir => ?_, fun names hnames => ?_, ?_, ?_⟩
  · exact pathLT_of_candidates hproper hsorted fun names => (hmem names).mp
  · exact filter_infix (ordConnected_isPrefixOf dir) hsorted
  · exact ((hmem names).mp hnames).sought
  · intro qs hs hqs
    exact ⟨Glob.ofStrings_append hps hqs, by rw [walk?_append, hwalk, Option.map_some]⟩
  · intro qs hsame
    have hvalid := Glob.exists_ofStrings_iff.mp ⟨gs, hps⟩
    obtain ⟨hs, hqs⟩ := Glob.exists_ofStrings_iff.mpr fun q hq => hvalid q ((hsame q).mp hq)
    refine ⟨hs, hqs, ?_⟩
    have hglobs : unmatched hs = unmatched gs := unmatched_congr fun g => by
      rw [Glob.mem_of_ofStrings hqs, Glob.mem_of_ofStrings hps]
      simp only [hsame]
    rw [walk?_eq_filter o hs, walk?_eq_filter o gs, hglobs]

end Disks

/-- A disk with a directory whose name is the beginning of others, and with rules. -/
def orderDisk : Disk where
  top := .dir [("src", .dir [
    ("a.java", .file []),
    ("a-b", .dir [("C.java", .file [])]),
    (".gitignore", .file ("gen/\n".toUTF8.data.toList)),
    ("gen", .dir [("G.java", .file [])]),
    ("a", .dir [("notes.txt", .file []), ("Z.java", .file []), ("B.java", .file [])])])]

/-- The pattern `**/C*`. -/
def letterGlob : Glob := ⟨[.anyComponents, .char 'C', .anyText]⟩

/-- The pattern `*B.*`. -/
def dottedGlob : Glob := ⟨[.anyText, .char 'B', .char '.', .anyText]⟩

/-- A source of the disk, and its path. -/
theorem candidate_orderDisk :
    Candidate orderDisk {} [letterGlob] "src" ["src"] ["a", "Z.java"] ∧
      below "src" ["a", "Z.java"] = "src/a/Z.java" := by
  refine ⟨⟨by decide, _, rfl, rfl, ?_⟩, by decide +kernel⟩
  refine .dir rfl (by decide +kernel) ?_
  refine .dir rfl (by decide +kernel) ?_
  exact .file (by decide +kernel)

/-- Sources are listed in order, and one more pattern takes out what it matches. -/
theorem walk_orderDisk :
    ∃ paths, Glob.ofStrings ["**/C*", "*B.*"] = .ok ([letterGlob] ++ [dottedGlob]) ∧
      orderDisk.walk? {} [letterGlob] "src" = some paths ∧ paths.Pairwise Disk.PathLT ∧
      "src/a/Z.java" ∈ paths ∧
      orderDisk.walk? {} ([letterGlob] ++ [dottedGlob]) "src" =
        some (paths.filter (unmatched [dottedGlob])) ∧
      unmatched [dottedGlob] "src/a/Z.java" = true ∧ unmatched [dottedGlob] "src/a/B.java" = false := by
  have hproper : orderDisk.top.Proper := by decide +kernel
  have hroot : orderDisk.isDir "src" = true := by decide +kernel
  have hresolve : orderDisk.resolve? "src" = some ["src"] := by decide +kernel
  have hps : Glob.ofStrings ["**/C*"] = .ok [letterGlob] := by decide +kernel
  have hqs : Glob.ofStrings ["*B.*"] = .ok [dottedGlob] := by decide +kernel
  obtain ⟨place, places, -, hwalk, hsorted, -, -, hmore, -⟩ := walk_in_order hproper hroot {} hps
  obtain ⟨listed, hlisted, -, hmem⟩ := exists_walk?_eq {} [letterGlob] hproper hresolve rfl
  have hpaths : places.map (below "src") = listed.map (below "src") :=
    Option.some.inj (hwalk.symm.trans hlisted)
  obtain ⟨hcandidate, hpath⟩ := candidate_orderDisk
  refine ⟨_, (hmore _ _ hqs).1, hwalk, hsorted, ?_, (hmore _ _ hqs).2, by decide +kernel, by decide +kernel⟩
  rw [hpaths, ← hpath]
  exact List.mem_map_of_mem ((hmem _).mpr hcandidate)

end TypeCensus.Walk
