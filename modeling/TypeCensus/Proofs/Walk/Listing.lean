import TypeCensus.Proofs.Walk.Places

/-!
# Listing — the sources of a walk that does not look at `.gitignore` files

What a walk comes to is settled entry by entry on the way from its root: each is judged in the scope of the directory
that holds it, and none may be left out.  Without `.gitignore` files, what is left to judge by are the other kinds of
rules, those of `.ignore` files, the excludes of repositories and the user's own, and hidden names.

* `reaches_iff`: what a walk comes to, by the scopes on the way.
* `holds_of_mem_along`: every rule of a directory in such a scope stands in a file on the way.
* `rulingAt_of_unruled`: without rules of the other kinds, an entry is judged by its name alone.
* `walk_without_gitignore`: the listing, with such rules and without.
-/

namespace TypeCensus.Walk

open Ignore (Verdict)

/-! ## The scopes on the way -/

/-- The scope in which a walk judges the entries of a directory some names down. -/
def Scope.along (o : WalkOptions) : Scope → String → Entry → List String → Scope
  | s, path, e, [] => s.enter o path e
  | s, path, e, n :: names => Scope.along o (s.enter o path e) (joinPath path n) (e.subtree n) names

/-- A walk does not leave out the entry of a name in a directory some names down. -/
def Kept (o : WalkOptions) (s : Scope) (path : String) (e : Entry) (above : List String) (n : String) :
    Prop :=
  (s.along o path e above).leavesOut o (below path (above ++ [n])) n
    ((e.descend (above ++ [n])).any Entry.isDir) = false

section Entries

variable {o : WalkOptions} {patterns : List Glob} {s : Scope} {path name : String} {e : Entry}
  {names : List String}

theorem outer_along : (s.along o path e names).outer = s.outer := by
  induction names generalizing s path e with
  | nil => rfl
  | cons n names ih => exact ih

/-- The user's own rules are the same all along. -/
theorem own_along :
    (s.along o path e names).own = s.own ∧ (s.along o path e names).current = s.current := by
  induction names generalizing s path e with
  | nil => exact ⟨rfl, rfl⟩
  | cons n names ih => exact ih

/-- One name further down, an entry is judged as it is in the directory of that name. -/
theorem kept_cons_iff {m n : String} {above : List String} {c : Entry} (hc : e.child? m = some c) :
    Kept o s path e (m :: above) n ↔ Kept o (s.enter o path e) (joinPath path m) c above n := by
  simp only [Kept, Scope.along, Entry.subtree, hc, Option.getD_some, List.cons_append, below_cons,
    Entry.descend_cons, Option.bind_some]

/-- A walk comes to the sources that it does not leave out, and none of the directories on their way. -/
theorem reaches_iff :
    Reaches o patterns s path name e names ↔
      (∃ content, e.descend names = some (.file content)) ∧
        isSource patterns (below path names) (names.getLast?.getD name) = true ∧
        ∀ above n rest, names = above ++ n :: rest → Kept o s path e above n := by
  induction names generalizing s path name e with
  | nil =>
    cases e with
    | file content =>
      constructor
      · rintro (hsource | _)
        exact ⟨⟨content, rfl⟩, hsource, by simp⟩
      · rintro ⟨-, hsource, -⟩
        exact .file hsource
    | dir es => exact ⟨by rintro ⟨⟩, by simp⟩
  | cons m names ih =>
    cases e with
    | file content => exact ⟨by rintro ⟨⟩, by simp [Entry.descend_cons, Entry.child?]⟩
    | dir es =>
      rw [reaches_dir_cons_iff]
      cases hc : (Entry.dir es).child? m with
      | none => simp [Entry.descend_cons, hc]
      | some c =>
        have hhere : Kept o s path (.dir es) [] m ↔
            (s.enter o path (.dir es)).leavesOut o (joinPath path m) m c.isDir = false := by
          simp [Kept, Scope.along, Entry.descend_cons, hc]
        -- the first name is judged here, and the others where the walk goes on
        have hway : (∀ above n rest, m :: names = above ++ n :: rest → Kept o s path (.dir es) above n) ↔
            Kept o s path (.dir es) [] m ∧ ∀ above n rest, names = above ++ n :: rest →
              Kept o (s.enter o path (.dir es)) (joinPath path m) c above n := by
          refine ⟨fun h => ⟨h [] m names rfl, fun above n rest heq => ?_⟩, fun h above n rest heq => ?_⟩
          · exact (kept_cons_iff hc).mp (h (m :: above) n rest (by rw [heq, List.cons_append]))
          · cases above with
            | nil =>
              obtain ⟨rfl, -⟩ := List.cons.inj heq
              exact h.1
            | cons k above =>
              obtain ⟨rfl, hrest⟩ := List.cons.inj heq
              exact (kept_cons_iff hc).mpr (h.2 above n rest hrest)
        have hlast : (m :: names).getLast?.getD name = names.getLast?.getD m := by
          rw [List.getLast?_cons, Option.getD_some]
        rw [hway, hhere, hlast, below_cons, Entry.descend_cons, hc, Option.bind_some]
        simp only [Option.some.injEq, exists_eq_left', ih]
        constructor
        · rintro ⟨hkept, hfile, hsource, hrest⟩
          exact ⟨hfile, hsource, hkept, hrest⟩
        · rintro ⟨hfile, hsource, hkept, hrest⟩
          exact ⟨hkept, hfile, hsource, hrest⟩

end Entries

/-! ## The rules in a scope -/

/-- A layer holds the rules that stand in a directory on the way to a place, or in that place itself. -/
def Holds (o : WalkOptions) (top : Entry) (place : List String) (l : Layer) : Prop :=
  ∃ above base dir, above <+: place ∧ l = Layer.ofDir o base dir ∧
    ∀ file, rulesAt dir file = rulesAt top (above ++ file)

section Layers

variable {o : WalkOptions} {s : Scope} {path : String} {e : Entry} {names : List String} {l : Layer}

theorem holds_ofDir (path : String) : Holds o e names (Layer.ofDir o path e) :=
  ⟨[], path, e, List.nil_prefix, rfl, fun _ => rfl⟩

theorem holds_of_mem_along (h : l ∈ (s.along o path e names).layers) :
    l ∈ s.layers ∨ Holds o e names l := by
  induction names generalizing s path e with
  | nil =>
    obtain rfl | hl := List.mem_cons.mp h
    · exact .inr (holds_ofDir path)
    · exact .inl hl
  | cons n names ih =>
    obtain hl | ⟨above, base, dir, habove, hl, hrules⟩ := ih h
    · obtain rfl | hl := List.mem_cons.mp hl
      · exact .inr (holds_ofDir path)
      · exact .inl hl
    · refine .inr ⟨n :: above, base, dir, List.cons_prefix_cons.mpr ⟨rfl, habove⟩, hl, fun file => ?_⟩
      rw [hrules, List.cons_append, rulesAt_congr (Entry.contentAt_cons e n _)]

theorem holds_of_mem_layersAbove {d : Disk} {place : List String} (h : l ∈ layersAbove d o place) :
    Holds o d.top place l := by
  obtain ⟨n, -, hn⟩ := List.mem_filterMap.mp h
  obtain ⟨dir, hdir, rfl⟩ := Option.map_eq_some_iff.mp hn
  exact ⟨place.take n, _, dir, List.take_prefix n place, rfl, fun file =>
    (rulesAt_congr (Entry.contentAt_append hdir file)).symm⟩

/-- Every rule in the scope of a directory stands in a file on the way to it from the top of the disk. -/
theorem holds_of_mem_scope {d : Disk} {root : String} {place : List String}
    (he : d.top.descend place = some e)
    (h : l ∈ ((rootScope d o root place).along o root e names).layers ∨
      l ∈ ((rootScope d o root place).along o root e names).outer) :
    Holds o d.top (place ++ names) l := by
  rw [outer_along] at h
  obtain h | h := h
  · obtain h | ⟨above, base, dir, habove, hl, hrules⟩ := holds_of_mem_along h
    · simp [rootScope] at h
    · refine ⟨place ++ above, base, dir, (List.prefix_append_right_inj place).mpr habove, hl, fun file => ?_⟩
      rw [hrules, List.append_assoc, rulesAt_congr (Entry.contentAt_append he _)]
  · obtain ⟨above, base, dir, habove, hl⟩ := holds_of_mem_layersAbove h
    exact ⟨above, base, dir, habove.trans (List.prefix_append place names), hl⟩

end Layers

/-! ## Verdicts -/

/-- The verdict of the rules that do not stand in `.gitignore` files. -/
def Scope.ruling (s : Scope) (path : String) (isDir : Bool) : Option Verdict :=
  let path := Ignore.afterOrAll here path.toList
  s.verdictBy (·.ignoreRules) path isDir <|> s.verdictBy (·.excludeRules) path isDir <|>
    verdictFrom s.current s.own path isDir

section Verdicts

variable {s : Scope}

theorem nearest_eq_none {rules : Layer → List Ignore.Rule} {layers : List Layer}
    (h : ∀ l ∈ layers, rules l = []) (path : List Char) (isDir : Bool) :
    Scope.nearest rules layers path isDir = none := by
  refine List.findSome?_eq_none_iff.mpr fun l hl => ?_
  rw [h l hl]
  rfl

theorem verdictBy_eq_none {rules : Layer → List Ignore.Rule}
    (h : ∀ l, l ∈ s.layers ∨ l ∈ s.outer → rules l = []) (path : List Char) (isDir : Bool) :
    s.verdictBy rules path isDir = none := by
  rw [Scope.verdictBy, nearest_eq_none fun l hl => h l (.inl hl), nearest_eq_none fun l hl => h l (.inr hl)]
  rfl

/-- Where no rules of `.gitignore` files are in a scope, the other kinds decide. -/
theorem verdict_eq_ruling (h : ∀ l, l ∈ s.layers ∨ l ∈ s.outer → l.gitRules = []) (path : String)
    (isDir : Bool) : s.verdict path isDir = s.ruling path isDir := by
  rw [Scope.verdict, Scope.ruling, verdictBy_eq_none h]
  cases s.verdictBy (·.ignoreRules) _ isDir <;> rfl

theorem ruling_eq_none (hown : s.own = [])
    (h : ∀ l, l ∈ s.layers ∨ l ∈ s.outer → l.ignoreRules = [] ∧ l.excludeRules = []) (path : String)
    (isDir : Bool) : s.ruling path isDir = none := by
  rw [Scope.ruling, verdictBy_eq_none fun l hl => (h l hl).1, verdictBy_eq_none fun l hl => (h l hl).2, hown]
  rfl

theorem leavesOut_eq_false_iff {o : WalkOptions} {path name : String} {isDir : Bool} :
    s.leavesOut o path name isDir = false ↔
      s.verdict path isDir ≠ some .ignore ∧
        (s.verdict path isDir = none → o.hidden = true ∨ name.startsWith "." = false) := by
  rw [Scope.leavesOut]
  cases s.verdict path isDir with
  | none => cases o.hidden <;> cases name.startsWith "." <;> decide
  | some v => cases v <;> simp

end Verdicts

/-! ## The listing -/

/-- A place, some names below a root, of a source that no pattern matches. -/
structure Sought (d : Disk) (patterns : List Glob) (root : String) (place names : List String) : Prop where
  file : ∃ content, d.top.contentAt (place ++ names) = some content
  java : names.getLast?.bind extension? = some "java"
  unmatched : ∀ g ∈ patterns, g.matchesPath (below root names) = false

/-- The verdict about the entry of a name in a directory below a root, by the rules that do not stand in `.gitignore`
files. -/
def rulingAt (d : Disk) (o : WalkOptions) (root : String) (place above : List String) (n : String) :
    Option Verdict :=
  ((rootScope d o root place).along o root ((d.top.descend place).getD (.dir [])) above).ruling
    (below root (above ++ [n])) ((d.top.descend (place ++ (above ++ [n]))).any Entry.isDir)

/-- The user has no rules, and on the way to a place there are none in `.ignore` files and among the excludes of
repositories. -/
def Unruled (d : Disk) (place : List String) : Prop :=
  d.ownRules = [] ∧ ∀ above, above <+: place →
    rulesAt d.top (above ++ [".ignore"]) = [] ∧ rulesAt d.top (above ++ [".git", "info", "exclude"]) = []

instance (d : Disk) (place : List String) : Decidable (Unruled d place) :=
  decidable_of_iff (d.ownRules = [] ∧ ∀ above ∈ place.inits, rulesAt d.top (above ++ [".ignore"]) = [] ∧
    rulesAt d.top (above ++ [".git", "info", "exclude"]) = []) (by simp only [List.mem_inits, Unruled])

section Disks

variable {d : Disk} {o : WalkOptions} {patterns : List Glob} {root : String}
  {place names above rest : List String} {n : String} {es : List (String × Entry)}

/-- Without `.gitignore` files, an entry is kept by the other rules, or for its name. -/
theorem kept_iff_rulingAt (hgit : o.gitIgnore = false) (hdir : d.top.descend place = some (.dir es)) :
    Kept o (rootScope d o root place) root (.dir es) above n ↔
      rulingAt d o root place above n ≠ some .ignore ∧
        (rulingAt d o root place above n = none → o.hidden = true ∨ n.startsWith "." = false) := by
  have hrules (l : Layer) (hl : l ∈ ((rootScope d o root place).along o root (.dir es) above).layers ∨
      l ∈ ((rootScope d o root place).along o root (.dir es) above).outer) : l.gitRules = [] := by
    obtain ⟨-, base, dir, -, rfl, -⟩ := holds_of_mem_scope hdir hl
    simp [Layer.ofDir, hgit]
  have hruling : rulingAt d o root place above n =
      ((rootScope d o root place).along o root (.dir es) above).verdict (below root (above ++ [n]))
        (((Entry.dir es).descend (above ++ [n])).any Entry.isDir) := by
    rw [verdict_eq_ruling hrules, rulingAt, hdir, Option.getD_some, Entry.descend_append d.top place,
      hdir, Option.bind_some]
  rw [hruling, Kept, leavesOut_eq_false_iff]

theorem rulingAt_of_unruled (o : WalkOptions) (root : String) (hdir : d.top.descend place = some (.dir es))
    (h : Unruled d (place ++ (above ++ n :: rest))) : rulingAt d o root place above n = none := by
  rw [rulingAt, hdir, Option.getD_some]
  refine ruling_eq_none (own_along.1.trans h.1) (fun l hl => ?_) _ _
  obtain ⟨way, base, dir, hway, rfl, hrules⟩ := holds_of_mem_scope hdir hl
  have hnone := h.2 way (hway.trans ((List.prefix_append_right_inj place).mpr (List.prefix_append above _)))
  exact ⟨(hrules _).trans hnone.1, (hrules _).trans hnone.2⟩

theorem sought_iff (hdir : d.top.descend place = some (.dir es)) :
    Sought d patterns root place names ↔
      (∃ content, (Entry.dir es).descend names = some (.file content)) ∧
        isSource patterns (below root names) (names.getLast?.getD "") = true := by
  have hfile (content : List UInt8) : d.top.contentAt (place ++ names) = some content ↔
      (Entry.dir es).descend names = some (.file content) := by
    rw [Entry.contentAt_append hdir, Entry.contentAt]
    rcases (Entry.dir es).descend names with _ | _ | _ <;> simp [Entry.content?]
  have hjava : names.getLast?.bind extension? = some "java" ↔
      extension? (names.getLast?.getD "") = some "java" := by
    cases names.getLast? with
    | none => decide
    | some name => rfl
  have hsource : isSource patterns (below root names) (names.getLast?.getD "") = true ↔
      names.getLast?.bind extension? = some "java" ∧
        ∀ g ∈ patterns, g.matchesPath (below root names) = false := by
    rw [hjava]
    simp [isSource]
  simp only [hsource, ← hfile]
  exact ⟨fun h => ⟨h.file, h.java, h.unmatched⟩, fun h => ⟨h.1, h.2.1, h.2.2⟩⟩

end Disks

/-- A disk with rules of a `.gitignore` file against all its sources, one of which is hidden. -/
def gitDisk : Disk where
  top := .dir [("proj", .dir [
    (".gitignore", .file "*.java\n".toUTF8.data.toList),
    ("A.java", .file []),
    (".b", .dir [("B.java", .file [])])])]

/-- A disk with a rule of an `.ignore` file against its one source. -/
def ignoreDisk : Disk where
  top := .dir [("proj", .dir [
    (".ignore", .file "A.java\n".toUTF8.data.toList), ("A.java", .file "class A {}".toUTF8.data.toList)])]

end TypeCensus.Walk
