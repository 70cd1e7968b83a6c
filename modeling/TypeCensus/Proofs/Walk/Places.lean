import TypeCensus.Proofs.Disk.Paths
import TypeCensus.Walk

/-!
# Places — the sources that a walk comes to

`Reaches` says which places below an entry a walk comes to, one directory after the other and without an order.  The
walk lists just these, each once, and the smaller one first.

* `nameLE_sorted`: sorting the entries of a proper directory puts their names in increasing order.
* `exists_sourcesOf_eq`: the sources of an entry.
* `exists_walk?_eq`: the sources of a directory on a disk.
-/

namespace TypeCensus.Walk

/-- A walk comes to a source some names below an entry. -/
inductive Reaches (o : WalkOptions) (patterns : List Glob) :
    Scope → String → String → Entry → List String → Prop
  | file {s : Scope} {path name : String} {content : List UInt8}
      (hsource : isSource patterns path name = true) :
      Reaches o patterns s path name (.file content) []
  | dir {s : Scope} {path name n : String} {es : List (String × Entry)} {e : Entry}
      {names : List String} (hchild : (Entry.dir es).child? n = some e)
      (hkept : (s.enter o path (.dir es)).leavesOut o (joinPath path n) n e.isDir = false)
      (hbelow : Reaches o patterns (s.enter o path (.dir es)) (joinPath path n) n e names) :
      Reaches o patterns s path name (.dir es) (n :: names)

theorem reaches_dir_cons_iff {o : WalkOptions} {patterns : List Glob} {s : Scope} {path name n : String}
    {es : List (String × Entry)} {names : List String} :
    Reaches o patterns s path name (.dir es) (n :: names) ↔
      ∃ e, (Entry.dir es).child? n = some e ∧
        (s.enter o path (.dir es)).leavesOut o (joinPath path n) n e.isDir = false ∧
        Reaches o patterns (s.enter o path (.dir es)) (joinPath path n) n e names :=
  ⟨fun | .dir hchild hkept hbelow => ⟨_, hchild, hkept, hbelow⟩,
    fun ⟨_, hchild, hkept, hbelow⟩ => .dir hchild hkept hbelow⟩

/-- The rules of a file depend on nothing but its content. -/
theorem rulesAt_congr {dir dir' : Entry} {names names' : List String}
    (h : dir.contentAt names = dir'.contentAt names') : rulesAt dir names = rulesAt dir' names' := by
  unfold Entry.contentAt at h
  rw [rulesAt, rulesAt, h]

/-! ## The order of entries -/

/-- Sorting entries with names of their own puts the names in increasing order. -/
theorem nameLE_sorted {α : Type} {es : List (String × α)} (h : (es.map (·.1)).Nodup) :
    (es.mergeSort nameLE).Pairwise fun x y => x.1 < y.1 := by
  have hle : (es.mergeSort nameLE).Pairwise fun x y => nameLE x y = true :=
    List.pairwise_mergeSort
      (fun a b c hab hbc => by
        simp only [nameLE, Bool.not_eq_true', decide_eq_false_iff_not, not_lt] at hab hbc ⊢
        exact hab.trans hbc)
      (fun a b => by
        simp only [nameLE, Bool.or_eq_true, Bool.not_eq_true', decide_eq_false_iff_not, not_lt]
        exact le_total _ _) es
  have hne : (es.mergeSort nameLE).Pairwise fun x y => x.1 ≠ y.1 := by
    have hnodup := ((List.mergeSort_perm es nameLE).map (·.1)).nodup_iff.mpr h
    exact List.pairwise_map.mp hnodup
  refine (hle.and hne).imp fun {x y} hxy => ?_
  obtain ⟨hxy, hne⟩ := hxy
  simp only [nameLE, Bool.not_eq_true', decide_eq_false_iff_not, not_lt] at hxy
  exact lt_of_le_of_ne hxy hne

/-! ## Entries -/

variable (o : WalkOptions) (patterns : List Glob)

theorem sourcesIn_eq_map (s : Scope) (path : String) (es : List (String × Entry)) :
    sourcesIn o patterns s path es = es.map fun x =>
      (x.1, if s.leavesOut o (joinPath path x.1) x.1 x.2.isDir then []
        else sourcesOf o patterns s (joinPath path x.1) x.1 x.2) := by
  induction es with
  | nil => simp [sourcesIn]
  | cons x es ih =>
    obtain ⟨name, e⟩ := x
    rw [sourcesIn, ih]
    rfl

/-- The sources of a directory are those of its entries, in the order of their names. -/
theorem sourcesOf_dir (s : Scope) (path name : String) (es : List (String × Entry)) :
    sourcesOf o patterns s path name (.dir es) =
      (es.mergeSort nameLE).flatMap fun x =>
        let s := s.enter o path (.dir es)
        if s.leavesOut o (joinPath path x.1) x.1 x.2.isDir then []
        else sourcesOf o patterns s (joinPath path x.1) x.1 x.2 := by
  have hsort (f : String × Entry → List String) : (es.map fun x => (x.1, f x)).mergeSort nameLE =
      (es.mergeSort nameLE).map fun x => (x.1, f x) := by
    refine (List.map_mergeSort ?_).symm
    intro a _ b _
    rfl
  rw [sourcesOf, sourcesIn_eq_map]
  dsimp only
  rw [hsort, List.flatMap_map]

/-- Entries that stand in the order of their names are gone through as they stand. -/
theorem sourcesOf_dir_of_sorted (s : Scope) (path name : String) {es : List (String × Entry)}
    (h : es.Pairwise fun x y => nameLE x y = true) :
    sourcesOf o patterns s path name (.dir es) =
      es.flatMap fun x =>
        let s := s.enter o path (.dir es)
        if s.leavesOut o (joinPath path x.1) x.1 x.2.isDir then []
        else sourcesOf o patterns s (joinPath path x.1) x.1 x.2 := by
  rw [sourcesOf_dir, List.mergeSort_of_pairwise h]

/-- The places of the sources of an entry, if it is not left out. -/
theorem exists_sourcesOf_eq {e : Entry} (h : e.Proper) (s : Scope) (path name : String) :
    ∃ places : List (List String), sourcesOf o patterns s path name e = places.map (below path) ∧
      places.Pairwise (· < ·) ∧ ∀ names, names ∈ places ↔ Reaches o patterns s path name e names := by
  induction h generalizing s path name with
  | file content =>
    have hiff (names : List String) : Reaches o patterns s path name (.file content) names ↔
        isSource patterns path name = true ∧ names = [] :=
      ⟨fun | .file hsource => ⟨hsource, rfl⟩, fun ⟨hsource, hnames⟩ => hnames ▸ .file hsource⟩
    cases hsource : isSource patterns path name with
    | true => exact ⟨[[]], by simp [sourcesOf, hsource], by simp, fun names => by simp [hiff, hsource]⟩
    | false => exact ⟨[], by simp [sourcesOf, hsource], by simp, fun names => by simp [hiff, hsource]⟩
  | @dir es hnodup hnames hentries ih =>
    let inner := s.enter o path (.dir es)
    have hentry (x : String × Entry) (hx : x ∈ es) : ∃ places : List (List String),
        (if inner.leavesOut o (joinPath path x.1) x.1 x.2.isDir then []
          else sourcesOf o patterns inner (joinPath path x.1) x.1 x.2) =
            places.map (below (joinPath path x.1)) ∧
        places.Pairwise (· < ·) ∧ ∀ names, names ∈ places ↔
          inner.leavesOut o (joinPath path x.1) x.1 x.2.isDir = false ∧
            Reaches o patterns inner (joinPath path x.1) x.1 x.2 names := by
      cases hout : inner.leavesOut o (joinPath path x.1) x.1 x.2.isDir with
      | true => exact ⟨[], by simp, by simp, by simp⟩
      | false =>
        obtain ⟨places, heq, hsorted, hmem⟩ := ih x hx inner (joinPath path x.1) x.1
        exact ⟨places, by simpa using heq, hsorted, by simpa using hmem⟩
    choose! places hplaces using hentry
    have hsort {x : String × Entry} : x ∈ es.mergeSort nameLE ↔ x ∈ es := List.mem_mergeSort
    refine ⟨(es.mergeSort nameLE).flatMap fun x => (places x).map (x.1 :: ·), ?_, ?_, fun names => ?_⟩
    · rw [sourcesOf_dir, List.map_flatMap]
      refine List.flatMap_congr fun x hx => ?_
      rw [List.map_map]
      exact (hplaces x (hsort.mp hx)).1
    · refine List.pairwise_flatMap.mpr ⟨fun x hx => ?_, ?_⟩
      · rw [List.pairwise_map]
        exact (hplaces x (hsort.mp hx)).2.1.imp fun hlt => List.Lex.cons hlt
      · refine (nameLE_sorted hnodup).imp fun {x y} hlt a ha b hb => ?_
        obtain ⟨a, -, rfl⟩ := List.mem_map.mp ha
        obtain ⟨b, -, rfl⟩ := List.mem_map.mp hb
        exact List.Lex.rel hlt
    · simp only [List.mem_flatMap, List.mem_map, hsort]
      constructor
      · rintro ⟨x, hx, rest, hrest, rfl⟩
        obtain ⟨hkept, hreaches⟩ := ((hplaces x hx).2.2 rest).mp hrest
        exact .dir ((Entry.child?_eq_some_iff hnodup).mpr hx) hkept hreaches
      · intro hreaches
        cases hreaches with
        | @dir _ _ _ n _ e rest hchild hkept hbelow =>
          have hmem := (Entry.child?_eq_some_iff hnodup).mp hchild
          exact ⟨_, hmem, rest, ((hplaces _ hmem).2.2 rest).mpr ⟨hkept, hbelow⟩, rfl⟩

/-- A walk comes to files only. -/
theorem Reaches.exists_file {o : WalkOptions} {patterns : List Glob} {s : Scope} {path name : String}
    {e : Entry} {names : List String} (h : Reaches o patterns s path name e names) :
    ∃ content, e.descend names = some (.file content) := by
  induction h with
  | file => exact ⟨_, rfl⟩
  | dir hchild _ _ ih =>
    obtain ⟨content, hfile⟩ := ih
    exact ⟨content, by rw [Entry.descend_cons, hchild, Option.bind_some, hfile]⟩

/-! ## Disks -/

/-- The scope of the root of a walk. -/
def rootScope (d : Disk) (o : WalkOptions) (root : String) (place : List String) : Scope where
  root := root.toList
  place := (placePath place).toList
  layers := []
  outer := layersAbove d o place
  current := (placePath d.current).toList
  own := d.ownRules

/-- A walk from a root comes to a source some names below it. -/
def Candidate (d : Disk) (o : WalkOptions) (patterns : List Glob) (root : String)
    (place names : List String) : Prop :=
  root ≠ "-" ∧ ∃ e, d.top.descend place = some e ∧ e.isDir = true ∧
    Reaches o patterns (rootScope d o root place) root "" e names

variable {o patterns} {d : Disk} {root : String} {place names : List String}

theorem candidate_iff {es : List (String × Entry)} (hdir : d.top.descend place = some (.dir es)) :
    Candidate d o patterns root place names ↔
      root ≠ "-" ∧ Reaches o patterns (rootScope d o root place) root "" (.dir es) names := by
  simp [Candidate, hdir, Entry.isDir]

theorem Candidate.exists_contentAt (h : Candidate d o patterns root place names) :
    ∃ content, d.top.contentAt (place ++ names) = some content := by
  obtain ⟨-, e, hdir, -, hreaches⟩ := h
  obtain ⟨content, hfile⟩ := hreaches.exists_file
  exact ⟨content, by rw [Entry.contentAt_append hdir, Entry.contentAt, hfile]; rfl⟩

theorem Candidate.properNames (h : Candidate d o patterns root place names) (hproper : d.top.Proper) :
    ∀ n ∈ names, ProperName n := by
  obtain ⟨-, e, hdir, -, hreaches⟩ := h
  obtain ⟨content, hfile⟩ := hreaches.exists_file
  exact ((hproper.descend hdir).1.descend hfile).2

/-- The paths of candidates are in order if their names are. -/
theorem pathLT_of_candidates (hproper : d.top.Proper) {places : List (List String)}
    (hsorted : places.Pairwise (· < ·))
    (h : ∀ names ∈ places, Candidate d o patterns root place names) :
    (places.map (below root)).Pairwise Disk.PathLT := by
  refine List.pairwise_map.mpr (hsorted.imp_of_mem fun {a b} ha hb hab => ?_)
  exact Disk.pathLT_below root ((h a ha).properNames hproper) ((h b hb).properNames hproper) hab

theorem walk?_of_dir (hroot : d.resolve? root = some place) {es : List (String × Entry)}
    (hdir : d.top.descend place = some (.dir es)) :
    d.walk? o patterns root =
      some (if root = "-" then []
        else sourcesOf o patterns (rootScope d o root place) root "" (.dir es)) := by
  simp only [Disk.walk?, hroot, hdir]
  split <;> rfl

variable (o patterns) in
/-- The sources of a directory on a disk are the candidates, in increasing order. -/
theorem exists_walk?_eq (hproper : d.top.Proper) (hroot : d.resolve? root = some place)
    {es : List (String × Entry)} (hdir : d.top.descend place = some (.dir es)) :
    ∃ places : List (List String), d.walk? o patterns root = some (places.map (below root)) ∧
      places.Pairwise (· < ·) ∧ ∀ names, names ∈ places ↔ Candidate d o patterns root place names := by
  rw [walk?_of_dir hroot hdir]
  by_cases hdash : root = "-"
  · exact ⟨[], by simp [hdash], by simp, fun names => by simp [Candidate, hdash]⟩
  · obtain ⟨places, heq, hsorted, hmem⟩ :=
      exists_sourcesOf_eq o patterns (hproper.descend hdir).1 (rootScope d o root place) root ""
    refine ⟨places, ?_, hsorted, fun names => by rw [hmem, candidate_iff hdir]; simp [hdash]⟩
    rw [if_neg hdash, heq]

end TypeCensus.Walk
