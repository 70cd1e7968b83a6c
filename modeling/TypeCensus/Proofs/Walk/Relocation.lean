import TypeCensus.Proofs.Disk.Spelling
import TypeCensus.Proofs.Glob.Leading
import TypeCensus.Proofs.Walk.Extension
import TypeCensus.Proofs.Walk.Patterns

/-!
# Relocation — a tree walked from different roots

Of a path below a directory with rules, the rules see what stands after the directory, so what they say does not depend
on where the directory stands.  The user's own rules see what the current directory sees.  Patterns see the whole path as
it is spelled from the root.  Those that begin with `**/` match within a tree what they match anyway, but a match may
also begin in the root, and then it excludes what would be listed from another one.

* `relativeTo_below`, `kept_relocated`: what the rules in directories say does not depend on the root.
* `unmatched_iff`, `caught_belowNamed_iff`: what patterns say may depend on it.
* `walk_relocated`: the listings of one tree from two roots.
* `walk_depends_on_root`: they differ if a pattern excludes one of the roots.
-/

namespace TypeCensus.Walk

open Ignore (after? afterOrAll Rule)

/-! ## What rules see of a path -/

section Texts

variable {start s : List Char}

theorem after?_append (start s : List Char) : after? start (start ++ s) = some s := by
  simp [after?]

theorem afterOrAll_append (start s : List Char) : afterOrAll start (start ++ s) = s := by
  rw [afterOrAll, after?_append, Option.getD_some]

theorem afterOrAll_of_not (h : ¬ start <+: s) : afterOrAll start s = s := by
  rw [afterOrAll, after?, if_neg (by simpa using h), Option.getD_none]

/-- A text that ends in a slash begins with `./` if anything that begins with it does. -/
theorem here_prefix_append_iff (hslash : s.getLast? = some '/') (rest : List Char) :
    here <+: s ++ rest ↔ here <+: s := by
  refine ⟨fun h => ?_, fun h => h.trans (List.prefix_append s rest)⟩
  match s, hslash, h with
  | [c], hslash, h =>
    obtain rfl : c = '/' := by simpa using hslash
    simp [here] at h
  | c :: c' :: s, _, h => simpa [here] using h

/-- What follows a slash, or nothing, does not make a text begin with `./` unless it does so itself. -/
theorem not_here_prefix_append {rest : List Char} (hs : ¬ here <+: s) (hopens : Glob.Opens s)
    (hrest : ¬ here <+: rest) : ¬ here <+: s ++ rest := by
  obtain rfl | hslash := hopens
  · exact hrest
  · exact fun hpre => hs ((here_prefix_append_iff hslash rest).mp hpre)

/-- Names do not begin with `./`, and not with a slash. -/
theorem not_here_prefix_inner {names : List String} (hnames : ∀ n ∈ names, ProperName n) :
    ¬ here <+: inner names ∧ (inner names).head? ≠ some '/' := by
  cases names with
  | nil => decide
  | cons n names =>
    obtain ⟨hne, hdot, -, hslash⟩ := hnames n (by simp)
    obtain ⟨rest, hrest⟩ : ∃ rest, inner (n :: names) = n.toList ++ rest := by
      cases names with
      | nil => exact ⟨[], by simp⟩
      | cons m names => exact ⟨'/' :: inner (m :: names), inner_cons_cons n m names⟩
    rw [hrest]
    match hn : n.toList with
    | [] => exact absurd (String.toList_inj.mp (by simpa using hn)) hne
    | [c] =>
      have hc : c ≠ '.' := by
        rintro rfl
        exact hdot (String.toList_inj.mp hn)
      have hc' : '/' ≠ c := by simpa [hn] using hslash
      exact ⟨fun h => hc (List.cons_prefix_cons.mp h).1.symm, by simpa using hc'.symm⟩
    | c :: c' :: cs =>
      have hcs : '/' ≠ c ∧ '/' ≠ c' ∧ '/' ∉ cs := by simpa [hn] using hslash
      refine ⟨fun h => ?_, by simpa using hcs.1.symm⟩
      exact hcs.2.1 (List.cons_prefix_cons.mp (List.cons_prefix_cons.mp h).2).1

/-- What is left of a path after a text with or without a slash. -/
theorem relativeTo_of_split {base path b sep rest : List Char} (hbase : afterOrAll here base = b)
    (hpath : afterOrAll here path = b ++ sep ++ rest) (hdot : b ≠ ['.'])
    (hsep : sep = [] ∨ sep = ['/']) (hslash : b ++ sep = [] ∨ '/' ∈ b ++ sep)
    (hrest : rest.head? ≠ some '/') : relativeTo base path = rest := by
  have hleft : afterOrAll ['/'] (sep ++ rest) = rest := by
    obtain rfl | rfl := hsep
    · refine afterOrAll_of_not fun ⟨t, ht⟩ => hrest ?_
      rw [List.nil_append] at ht
      rw [← ht]
      rfl
    · exact afterOrAll_append _ _
  unfold relativeTo
  rw [hbase, hpath]
  dsimp only
  rw [List.append_assoc, after?_append]
  dsimp only
  rw [hleft]
  split
  · rfl
  · next hcond =>
    have hnone : b ++ sep = [] := hslash.resolve_right fun hmem => by
      have hmem := List.mem_append_left rest hmem
      rw [← List.append_assoc] at hcond
      exact hcond (by simpa [hdot] using hmem)
    rw [← List.append_assoc, hnone, List.nil_append]

theorem opens_of_here_append {after : List Char} (hslash : (here ++ after).getLast? = some '/') :
    Glob.Opens after := by
  rw [List.getLast?_append] at hslash
  cases after with
  | nil => exact .inl rfl
  | cons c cs => exact .inr (by simpa [List.getLast?_cons] using hslash)

/-- A text that begins with `./` is a `.` before a slash, or begins so itself. -/
theorem cases_of_here_append {sep after : List Char} (hsep : sep = [] ∨ sep = ['/'])
    (h : here ++ after = s ++ sep) : (s = ['.'] ∧ after = []) ∨ ∃ b, s = here ++ b ∧ after = b ++ sep := by
  obtain ⟨t, ht, hafter⟩ | ⟨t, ht, hafter⟩ := List.append_eq_append_iff.mp h
  · exact .inr ⟨t, ht, hafter⟩
  · cases t with
    | nil => exact .inr ⟨[], by simpa using ht.symm, by simpa using hafter.symm⟩
    | cons c t =>
      obtain rfl | rfl := hsep
      · simp at hafter
      · obtain ⟨rfl, hnil⟩ := List.cons.inj hafter
        obtain ⟨rfl, rfl⟩ := List.append_eq_nil_iff.mp hnil.symm
        have hdot : s ++ ['/'] = ['.'] ++ ['/'] := ht.symm
        exact .inl ⟨List.append_cancel_right hdot, rfl⟩

section Split

variable {sep rest : List Char} (hsep : sep = [] ∨ sep = ['/']) (hslash : (s ++ sep).getLast? = some '/')
  (hhead : rest.head? ≠ some '/')
include hsep hslash hhead

theorem relativeTo_of_not_here (hplain : ¬ here <+: s ++ sep) :
    relativeTo s (afterOrAll here (s ++ sep ++ rest)) = rest := by
  have hmem : '/' ∈ s ++ sep := List.mem_of_getLast? hslash
  have hpath : afterOrAll here (s ++ sep ++ rest) = s ++ sep ++ rest :=
    afterOrAll_of_not fun hpre => hplain ((here_prefix_append_iff hslash _).mp hpre)
  have hbase : ¬ here <+: s := fun hpre => hplain (hpre.trans (List.prefix_append s sep))
  have hdot : s ≠ ['.'] := by
    rintro rfl
    obtain rfl | rfl := hsep
    · simp at hmem
    · exact hplain (List.prefix_refl _)
  rw [hpath]
  exact relativeTo_of_split (afterOrAll_of_not hbase) hpath hdot hsep (.inr hmem) hhead

theorem relativeTo_of_here {after : List Char} (hafter : here ++ after = s ++ sep)
    (honce : ¬ here <+: after) (hrest : ¬ here <+: rest) :
    relativeTo s (afterOrAll here (s ++ sep ++ rest)) = rest := by
  have hopens : Glob.Opens after := opens_of_here_append (hafter ▸ hslash)
  have hpath : afterOrAll here (s ++ sep ++ rest) = after ++ rest := by
    rw [← hafter, List.append_assoc, afterOrAll_append]
  have hpath' : afterOrAll here (after ++ rest) = after ++ rest :=
    afterOrAll_of_not (not_here_prefix_append honce hopens hrest)
  rw [hpath]
  obtain ⟨rfl, rfl⟩ | ⟨b, rfl, rfl⟩ := cases_of_here_append hsep hafter
  · -- of `.` alone nothing is taken off
    rw [relativeTo, hpath']
    rfl
  · refine relativeTo_of_split (afterOrAll_append _ _) hpath' ?_ hsep ?_ hhead
    · rintro rfl
      obtain rfl | rfl := hsep
      · simp [Glob.Opens] at hopens
      · exact honce (List.prefix_refl _)
    · exact hopens.imp_right List.mem_of_getLast?

end Split

end Texts

/-- A path that is not empty and does not begin with `./` twice: of a path the rules see two of them taken off, and of
the path of their directory only one. -/
structure Plain (root : String) : Prop where
  ne_empty : root ≠ ""
  once : ¬ here ++ here <+: opened root

section Paths

variable {root : String} {names above rest : List String}

theorem Plain.not_here_prefix (h : Plain root) {after : List Char} (hafter : here ++ after = opened root) :
    ¬ here <+: after :=
  fun hpre => h.once (hafter ▸ (List.prefix_append_right_inj here).mpr hpre)

theorem Plain.joinPath {name : String} (h : Plain root) (hname : ProperName name) :
    Plain (joinPath root name) := by
  have hslash := (opened_cases h.ne_empty).2
  refine ⟨fun hempty => hname.1 ?_, fun hpre => ?_⟩
  · have hlist := toList_joinPath root name
    rw [hempty] at hlist
    exact String.toList_inj.mp (List.append_eq_nil_iff.mp hlist.symm).2
  · rw [opened_joinPath root hname, List.append_assoc] at hpre
    obtain ⟨after, hafter⟩ :=
      (here_prefix_append_iff hslash _).mp ((List.prefix_append here here).trans hpre)
    rw [← hafter, List.append_assoc, List.prefix_append_right_inj] at hpre
    have hopens : Glob.Opens after := opens_of_here_append (hafter ▸ hslash)
    refine not_here_prefix_append (h.not_here_prefix hafter) hopens (fun hrest => ?_) hpre
    have hinner : inner [name, name] = name.toList ++ ['/'] ++ name.toList := by
      simp [inner_cons_cons]
    have hnames : ∀ m ∈ [name, name], ProperName m := by simpa using hname
    exact (not_here_prefix_inner hnames).1 (hinner ▸ hrest.trans (List.prefix_append _ _))

theorem Plain.below (h : Plain root) (hnames : ∀ n ∈ names, ProperName n) : Plain (below root names) := by
  induction names generalizing root with
  | nil => exact h
  | cons n names ih => exact ih (h.joinPath (hnames n (by simp))) fun m hm => hnames m (by simp [hm])

/-- The rules of a directory see of a path below it what stands after the directory. -/
theorem relativeTo_below (h : Plain root) (hnames : ∀ n ∈ names, ProperName n)
    (hsome : names ≠ []) :
    relativeTo root.toList (afterOrAll here (TypeCensus.below root names).toList) = inner names := by
  obtain ⟨hinner, hhead⟩ := not_here_prefix_inner hnames
  obtain ⟨hopened, hslash⟩ := opened_cases h.ne_empty
  obtain ⟨sep, hroot, hsep⟩ : ∃ sep, opened root = root.toList ++ sep ∧ (sep = [] ∨ sep = ['/']) := by
    obtain hopened | hopened := hopened
    · exact ⟨[], by rw [hopened, List.append_nil], .inl rfl⟩
    · exact ⟨['/'], hopened, .inr rfl⟩
  rw [toList_below root hsome hnames, hroot]
  by_cases hhere : here <+: opened root
  · obtain ⟨after, hafter⟩ := hhere
    exact relativeTo_of_here hsep (hroot ▸ hslash) hhead (hafter.trans hroot) (h.not_here_prefix hafter) hinner
  · exact relativeTo_of_not_here hsep (hroot ▸ hslash) hhead (hroot ▸ hhere)

end Paths

/-! ## Verdicts -/

/-- The tree some names down; an empty directory, if there is nothing. -/
def subtreeAt (e : Entry) (names : List String) : Entry := names.foldl Entry.subtree e

/-- The verdict of the rules of one kind about the entry of a name in a directory some names down a tree, which is that
of the nearest directory on the way whose rules match. -/
def verdictWithin (o : WalkOptions) (rules : Layer → List Rule) (e : Entry) (above : List String)
    (n : String) (isDir : Bool) : Option Ignore.Verdict :=
  above.inits.reverse.findSome? fun way =>
    Ignore.verdictOf (rules (Layer.ofDir o "" (subtreeAt e way)))
      (String.ofList (inner (above.drop way.length ++ [n]))).toUTF8.data.toList isDir

section Verdicts

variable {o : WalkOptions} {s : Scope} {path root : String} {e : Entry} {above names : List String} {n : String}
  {rules : Layer → List Rule}

theorem layers_along : (s.along o path e names).layers =
    (names.inits.reverse.map fun way => Layer.ofDir o (below path way) (subtreeAt e way)) ++ s.layers := by
  induction names generalizing s path e with
  | nil => rfl
  | cons n names ih =>
    rw [Scope.along, ih]
    simp [Scope.enter, subtreeAt, Function.comp_def]

/-- The rules of one kind say of an entry the same from whatever root the tree is walked, unless there are such rules
above the root. -/
theorem verdictBy_along (hrules : ∀ base dir, rules (Layer.ofDir o base dir) = rules (Layer.ofDir o "" dir))
    (hlayers : s.layers = []) (houter : ∀ l ∈ s.outer, rules l = []) (h : Plain root)
    (habove : ∀ m ∈ above, ProperName m) (hn : ProperName n) (isDir : Bool) :
    (s.along o root e above).verdictBy rules
        (afterOrAll here (below root (above ++ [n])).toList) isDir =
      verdictWithin o rules e above n isDir := by
  have hnone (v : Option Ignore.Verdict) : (v <|> none) = v := by cases v <;> rfl
  rw [Scope.verdictBy, outer_along, nearest_eq_none houter, hnone, Scope.nearest, layers_along, hlayers,
    List.append_nil, List.findSome?_map, verdictWithin, ← List.head?_filterMap, ← List.head?_filterMap]
  refine congrArg List.head? (List.filterMap_congr fun way hway => ?_)
  -- each directory on the way sees of the path the names from there on
  obtain ⟨rest, rfl⟩ : way <+: above := (List.mem_inits way above).mp (List.mem_reverse.mp hway)
  have hplain := h.below fun m hm => habove m (List.mem_append_left rest hm)
  have hrest : ∀ m ∈ rest ++ [n], ProperName m := by
    intro m hm
    obtain hm | hm := List.mem_append.mp hm
    · exact habove m (List.mem_append_right way hm)
    · exact List.mem_singleton.mp hm ▸ hn
  have hseen := relativeTo_below hplain hrest (by simp)
  rw [← below_append, ← List.append_assoc] at hseen
  rw [Function.comp_apply, hrules, List.drop_left]
  dsimp only [Layer.ofDir]
  rw [verdictFrom, hseen]

/-- A scope on a disk with nothing to judge by but the directories on the way from a root and the user's own rules. -/
structure Bare (d : Disk) (s : Scope) : Prop where
  layers : s.layers = []
  outer : ∀ l ∈ s.outer, l.ignoreRules = [] ∧ l.gitRules = [] ∧ l.excludeRules = []
  own : s.own = d.ownRules
  current : s.current = (placePath d.current).toList

/-- The verdict of the own rules of the user of a disk about what a path leads to. -/
def ownVerdict (d : Disk) (path : String) (isDir : Bool) : Option Ignore.Verdict :=
  verdictFrom (placePath d.current).toList d.ownRules (afterOrAll here path.toList) isDir

/-- A walk keeps the same entries of a tree from whatever root, if the users' own rules say the same of them. -/
theorem kept_relocated {d₁ d₂ : Disk} {s₁ s₂ : Scope} {r₁ r₂ : String} (hs₁ : Bare d₁ s₁) (hs₂ : Bare d₂ s₂)
    (h₁ : Plain r₁) (h₂ : Plain r₂) (habove : ∀ m ∈ above, ProperName m) (hn : ProperName n)
    (hown : ∀ isDir, ownVerdict d₁ (below r₁ (above ++ [n])) isDir =
      ownVerdict d₂ (below r₂ (above ++ [n])) isDir) :
    Kept o s₁ r₁ e above n ↔ Kept o s₂ r₂ e above n := by
  have hverdict {d : Disk} {s : Scope} {r : String} (hs : Bare d s) (h : Plain r) (isDir : Bool) :
      (s.along o r e above).verdict (below r (above ++ [n])) isDir =
        (verdictWithin o (·.ignoreRules) e above n isDir <|>
          verdictWithin o (·.gitRules) e above n isDir <|>
          verdictWithin o (·.excludeRules) e above n isDir <|> ownVerdict d (below r (above ++ [n])) isDir) := by
    rw [Scope.verdict, verdictBy_along (fun _ _ => rfl) hs.layers (fun l hl => (hs.outer l hl).1) h habove hn,
      verdictBy_along (fun _ _ => rfl) hs.layers (fun l hl => (hs.outer l hl).2.1) h habove hn,
      verdictBy_along (fun _ _ => rfl) hs.layers (fun l hl => (hs.outer l hl).2.2) h habove hn, own_along.1,
      own_along.2, hs.own, hs.current]
    rfl
  rw [Kept, Kept, leavesOut_eq_false_iff, leavesOut_eq_false_iff, hverdict hs₁ h₁, hverdict hs₂ h₂, hown]

end Verdicts

/-! ## Roots -/

/-- A tree stands at a root on a disk, and there are no rules in the directories above it. -/
structure Stands (d : Disk) (root : String) (place : List String) (es : List (String × Entry)) : Prop where
  leads : d.resolve? root = some place
  found : d.top.descend place = some (.dir es)
  bare : ∀ k < place.length, ∀ file ∈ rulePlaces, rulesAt d.top (place.take k ++ file) = []

/-- The own rules of the users of two disks say the same of all that is on the way to some names below two roots. -/
def OwnAgree (d₁ d₂ : Disk) (r₁ r₂ : String) (names : List String) : Prop :=
  ∀ way, way <+: names → way ≠ [] → ∀ isDir,
    ownVerdict d₁ (below r₁ way) isDir = ownVerdict d₂ (below r₂ way) isDir

/-- Users without rules of their own agree. -/
theorem ownAgree_of_nil {d₁ d₂ : Disk} (h₁ : d₁.ownRules = []) (h₂ : d₂.ownRules = []) (r₁ r₂ : String)
    (names : List String) : OwnAgree d₁ d₂ r₁ r₂ names := by
  intro way _ _ isDir
  rw [ownVerdict, ownVerdict, h₁, h₂]
  rfl

theorem OwnAgree.symm {d₁ d₂ : Disk} {r₁ r₂ : String} {names : List String}
    (h : OwnAgree d₁ d₂ r₁ r₂ names) : OwnAgree d₂ d₁ r₂ r₁ names :=
  fun way hway hne isDir => (h way hway hne isDir).symm

/-- Some pattern excludes what stands at some names below a root, with a match that begins in the root. -/
def Caught (patterns : List Glob) (root : String) (names : List String) : Prop :=
  ∃ g ∈ patterns, g.BeginsIn (opened root) (inner names)

section Roots

variable {d d₁ d₂ : Disk} {o : WalkOptions} {root r₁ r₂ : String} {place place₁ place₂ names : List String}
  {es : List (String × Entry)} {ps : List String} {gs : List Glob}

theorem Stands.bareScope (h : Stands d root place es) (o : WalkOptions) :
    Bare d (rootScope d o root place) := by
  refine ⟨rfl, fun l hl => ?_, rfl, rfl⟩
  obtain ⟨k, hk, hl⟩ := List.mem_filterMap.mp hl
  obtain ⟨dir, hdir, rfl⟩ := Option.map_eq_some_iff.mp hl
  have hlt : k < place.length := List.mem_range.mp (List.mem_reverse.mp hk)
  have hrules {file : List String} (hfile : file ∈ rulePlaces) : rulesAt dir file = [] :=
    (rulesAt_congr (Entry.contentAt_append hdir file)).symm.trans (h.bare k hlt file hfile)
  refine ⟨hrules (by simp [rulePlaces]), ?_, hrules (by simp [rulePlaces])⟩
  rw [Layer.ofDir]
  split
  · exact hrules (by simp [rulePlaces])
  · rfl

/-- A pattern that begins with `**/` matches below a root what it matches anyway, or begins to match in the root. -/
theorem unmatched_iff (hps : Glob.ofStrings ps = .ok gs) (hleading : ∀ p ∈ ps, p.startsWith "**/" = true)
    (hroot : root ≠ "") (hne : names ≠ []) (hnames : ∀ n ∈ names, ProperName n) :
    (∀ g ∈ gs, g.matchesPath (below root names) = false) ↔
      (∀ g ∈ gs, Glob.matchParts g.parts (inner names) = false) ∧ ¬ Caught gs root names := by
  have hone (g : Glob) (hg : g ∈ gs) : g.matchesPath (below root names) = false ↔
      Glob.matchParts g.parts (inner names) = false ∧ ¬ g.BeginsIn (opened root) (inner names) := by
    obtain ⟨p, hp, hread⟩ := (Glob.mem_of_ofStrings hps).mp hg
    obtain ⟨parts, hparts⟩ := Glob.exists_parts_of_ofString hread (hleading p hp)
    rw [Glob.matchesPath, toList_below root hne hnames, ← Bool.not_eq_true,
      Glob.matchParts_append_iff hparts (opened_cases hroot).2, not_or, Bool.not_eq_true]
  simp only [Caught, not_exists, not_and]
  exact ⟨fun h => ⟨fun g hg => ((hone g hg).mp (h g hg)).1, fun g hg => ((hone g hg).mp (h g hg)).2⟩,
    fun h g hg => (hone g hg).mpr ⟨h.1 g hg, h.2 g hg⟩⟩

section Candidates

variable (hps : Glob.ofStrings ps = .ok gs) (hleading : ∀ p ∈ ps, p.startsWith "**/" = true)
include hps hleading

/-- Patterns exclude what they match within the tree, and no match begins in the root of a source that is listed. -/
theorem Candidate.uncaught (hproper : d.top.Proper) (hplain : Plain root)
    (h : Candidate d o gs root place names) :
    (∀ g ∈ gs, Glob.matchParts g.parts (inner names) = false) ∧ ¬ Caught gs root names := by
  have hsought := h.sought
  have hne : names ≠ [] := by
    rintro rfl
    simpa using hsought.java
  exact (unmatched_iff hps hleading hplain.ne_empty hne (h.properNames hproper)).mp hsought.unmatched

/-- What is listed below one root is listed below another one, unless a match begins in that or the users' own rules
disagree. -/
theorem candidate_relocated (hproper : d₁.top.Proper) (h₁ : Stands d₁ r₁ place₁ es)
    (h₂ : Stands d₂ r₂ place₂ es) (hr₁ : Plain r₁) (hr₂ : Plain r₂) (hdash : r₂ ≠ "-")
    (h : Candidate d₁ o gs r₁ place₁ names) (hfree : ¬ Caught gs r₂ names)
    (hown : OwnAgree d₁ d₂ r₁ r₂ names) : Candidate d₂ o gs r₂ place₂ names := by
  obtain ⟨hwithin, -⟩ := h.uncaught hps hleading hproper hr₁
  have hnames := h.properNames hproper
  obtain ⟨hsought, hkept⟩ := (candidate_iff_sought h.1 h₁.found).mp h
  have hne : names ≠ [] := by
    rintro rfl
    simpa using hsought.java
  refine (candidate_iff_sought hdash h₂.found).mpr ⟨⟨?_, hsought.java, ?_⟩, fun above n rest heq => ?_⟩
  · obtain ⟨content, hcontent⟩ := hsought.file
    rw [Entry.contentAt_append h₁.found] at hcontent
    exact ⟨content, (Entry.contentAt_append h₂.found names).trans hcontent⟩
  · exact (unmatched_iff hps hleading hr₂.ne_empty hne hnames).mpr ⟨hwithin, hfree⟩
  · subst heq
    have hway : above ++ [n] <+: above ++ n :: rest := ⟨rest, by simp⟩
    exact (kept_relocated (h₁.bareScope o) (h₂.bareScope o) hr₁ hr₂ (fun m hm => hnames m (by simp [hm]))
      (hnames n (by simp)) (hown _ hway (by simp))).mp (hkept above n rest rfl)

end Candidates

/-- The pattern `**/name/**` excludes a whole tree if the name is a component of its root as that is spelled, and else
only what is below such directories of the tree. -/
theorem caught_belowNamed_iff {name : String} (hname : ProperName name) (hroot : root ≠ "") :
    Caught [Glob.belowNamed name] root names ↔ name ∈ Disk.components root := by
  rw [mem_components_iff hname hroot]
  simp [Caught, Glob.beginsIn_belowNamed_iff hname.2.2.2 (opened_cases hroot).2, Glob.Opens]

end Roots

/-! ## Two roots -/

/-- A tree with rules, with a directory that rules exclude, one that a pattern excludes, and two sources more. -/
def sampleTree : List (String × Entry) := [
  (".gitignore", .file ("/out/\n".toUTF8.data.toList)),
  ("out", .dir [("O.java", .file [])]),
  ("build", .dir [("B.java", .file [])]),
  ("src", .dir [("out", .dir [("S.java", .file [])])]),
  ("A.java", .file [])]

/-- A disk with the tree in two places, one of which is below a directory with a name that a pattern excludes. -/
def twiceDisk : Disk where
  top := .dir [("work", .dir [("proj", .dir sampleTree)]), ("build", .dir [("proj", .dir sampleTree)])]

/-- A disk with the tree at its top. -/
def topDisk : Disk where
  top := .dir sampleTree

theorem stands_twiceDisk : Stands twiceDisk "./work/proj" ["work", "proj"] sampleTree ∧
    Stands twiceDisk "build/proj" ["build", "proj"] sampleTree :=
  ⟨⟨by decide +kernel, rfl, by decide⟩, by decide +kernel, rfl, by decide⟩

theorem stands_topDisk : Stands topDisk "/" [] sampleTree :=
  ⟨by decide +kernel, rfl, by decide⟩

theorem ofStrings_build : Glob.ofStrings ["**/build/**"] = .ok [Glob.belowNamed "build"] := by
  have hpattern : "**/build/**" = "**/" ++ "build" ++ "/**" := by decide
  rw [hpattern, Glob.ofStrings_cons_of_ok (Glob.ofString_belowNamed (by simp))]
  rfl

end TypeCensus.Walk
