import TypeCensus.Proofs.Walk.Places

/-!
# Extension — a walk after one more file

A file that no rules are read from, put into a vacant place, leaves every scope as it was, if it does not change the
user's own rules either.  So a walk comes to the same sources as before, and to the new file if that is one.

* `layer_insert`, `layersAbove_insert`: the rules in the directories stay the same.
* `ownRules_withFile`: so do the user's own rules, if no file that bears on them is touched.
* `reaches_insert_iff`: below an entry, the walk comes to the same other sources.
* `candidate_withFile_iff`: so it does on a disk.
* `listing_withFile`: so the listing gains the new file in its place, or nothing.
-/

namespace TypeCensus

namespace Walk

/-- Where the files stand that rules are read from, in a directory. The file of the user's own rules stands anywhere. -/
def rulePlaces : List (List String) := [[".ignore"], [".gitignore"], [".git", "info", "exclude"]]

/-- Rules of a directory are not read from a place, whatever directory that is. -/
def RuleFree (place : List String) : Prop := ∀ r ∈ rulePlaces, ¬ r <:+ place

/-- Rules are read only from files with such names, or below directories with such names. -/
theorem ruleFree_of_names {place : List String}
    (h : ∀ n ∈ place, n ∉ [".git", ".jj", ".gitignore", ".ignore"]) : RuleFree place := by
  intro r hr hsuffix
  simp only [rulePlaces, List.mem_cons, List.not_mem_nil, or_false] at hr
  rcases hr with rfl | rfl | rfl
  · exact h ".ignore" (hsuffix.mem (by simp)) (by simp)
  · exact h ".gitignore" (hsuffix.mem (by simp)) (by simp)
  · exact h ".git" (hsuffix.mem (by simp)) (by simp)

theorem RuleFree.of_suffix {place names : List String} (h : RuleFree place) (hsuffix : names <:+ place) :
    RuleFree names :=
  fun r hr hnames => h r hr (hnames.trans hsuffix)

/-! ## Scopes -/

section Entries

variable {e : Entry} {new : List String} {content : List UInt8}

theorem rulesAt_insert (h : e.Vacant new) {r : List String} (hne : r ≠ new) :
    rulesAt (e.insert new (.file content)) r = rulesAt e r :=
  rulesAt_congr (Entry.content_insert h content hne)

/-- The rules of a directory stay the same. -/
theorem layer_insert (o : WalkOptions) (base : String) (h : e.Vacant new) (hrules : RuleFree new) :
    Layer.ofDir o base (e.insert new (.file content)) = Layer.ofDir o base e := by
  have hne {r : List String} (hr : r ∈ rulePlaces) : r ≠ new := by
    rintro rfl
    exact hrules r hr (List.suffix_refl r)
  simp only [Layer.ofDir, rulesAt_insert h (hne (r := [".ignore"]) (by simp [rulePlaces])),
    rulesAt_insert h (hne (r := [".gitignore"]) (by simp [rulePlaces])),
    rulesAt_insert h (hne (r := [".git", "info", "exclude"]) (by simp [rulePlaces]))]

/-! ## Entries -/

variable {o : WalkOptions} {patterns : List Glob}

theorem not_reaches_empty {s : Scope} {path name : String} {names : List String} :
    ¬ Reaches o patterns s path name (.dir []) names := by
  rintro ⟨⟩
  next hchild _ _ => simp [Entry.child?] at hchild

theorem not_reaches_file_cons {s : Scope} {path name n : String} {names : List String} :
    ¬ Reaches o patterns s path name (.file content) (n :: names) := by
  rintro ⟨⟩

/-- The walk comes to the same other sources. -/
theorem reaches_insert_iff {s : Scope} {path name : String} {names : List String} (h : e.Vacant new)
    (hrules : RuleFree new) (hne : names ≠ new) :
    Reaches o patterns s path name (e.insert new (.file content)) names ↔
      Reaches o patterns s path name e names := by
  induction new generalizing e s path name names with
  | nil => exact absurd rfl h.ne_nil
  | cons m new ih =>
    obtain ⟨es, rfl⟩ := h.eq_dir
    have henter : s.enter o path ((Entry.dir es).insert (m :: new) (.file content)) =
        s.enter o path (.dir es) := by
      rw [Scope.enter, layer_insert o path h hrules]
      rfl
    rw [Entry.insert_dir_cons] at henter ⊢
    cases names with
    | nil => exact iff_of_false (by rintro ⟨⟩) (by rintro ⟨⟩)
    | cons n names =>
      rw [reaches_dir_cons_iff, reaches_dir_cons_iff, henter, Entry.child?_put]
      split
      · next hn =>
        subst hn
        have hbelow : names ≠ new := fun heq => hne (by rw [heq])
        have hsuffix := hrules.of_suffix (List.suffix_cons n new)
        obtain ⟨rfl, hnone⟩ | hsub := h.tail
        · -- the name is new, and so is the file itself
          obtain ⟨k, names, rfl⟩ := List.exists_cons_of_ne_nil hbelow
          simp [hnone, Entry.insert_nil, not_reaches_file_cons]
        · have hchild (s : Scope) (path : String) :
              Reaches o patterns s path n
                  (((Entry.dir es).subtree n).insert new (.file content)) names ↔
                Reaches o patterns s path n ((Entry.dir es).subtree n) names :=
            ih hsub hsuffix hbelow
          cases hc : (Entry.dir es).child? n with
          | none =>
            -- the name is new, and there are no other files below it
            simp only [Entry.subtree, hc, Option.getD_none] at hchild ⊢
            simp [hchild, not_reaches_empty]
          | some c =>
            simp only [Entry.subtree, hc, Option.getD_some] at hsub hchild ⊢
            have hdir : (c.insert new (.file content)).isDir = c.isDir := by
              obtain ⟨es', rfl⟩ := hsub.eq_dir
              exact hsub.isDir_insert _
            simp [hdir, hchild]
      · rfl

end Entries

end Walk

/-! ## Disks -/

namespace Disk

/-- A disk with a file put into it. -/
def withFile (d : Disk) (place : List String) (content : List UInt8) : Disk :=
  { d with top := d.top.insert place (.file content) }

theorem withFile_proper {d : Disk} {place : List String} (hproper : d.top.Proper)
    (h : d.top.Vacant place) (hnames : ∀ n ∈ place, ProperName n) (content : List UInt8) :
    (d.withFile place content).top.Proper :=
  hproper.insert (.file content) h hnames

theorem withFile_extends {d : Disk} {place : List String} (h : d.top.Vacant place)
    (content : List UInt8) : (d.withFile place content).Extends d :=
  ⟨rfl, fun _ _ hdir => Entry.dir_insert h content hdir⟩

/-- What is read from a path that leads to where it led before, and not to the new file. -/
theorem read?_withFile {d : Disk} {place : List String} (h : d.top.Vacant place) (content : List UInt8)
    {path : String} (hsame : (d.withFile place content).resolve? path = d.resolve? path)
    (hne : d.resolve? path ≠ some place) : (d.withFile place content).read? path = d.read? path := by
  rw [read?, read?, find?, find?, hsame]
  cases hplace : d.resolve? path with
  | none => rfl
  | some other => exact Entry.content_insert h content fun heq => hne (heq ▸ hplace)

/-- The user's own rules stay the same if all paths on which they depend lead to where they led before. -/
theorem ownRules_withFile {d : Disk} {place : List String} (h : d.top.Vacant place) (content : List UInt8)
    (hpaths : ∀ path ∈ d.user.settingsFiles ++ d.ownFile?.toList,
      (d.withFile place content).resolve? path = d.resolve? path ∧ d.resolve? path ≠ some place) :
    (d.withFile place content).ownRules = d.ownRules := by
  have hread {path : String} (hpath : path ∈ d.user.settingsFiles ++ d.ownFile?.toList) :
      (d.withFile place content).read? path = d.read? path :=
    read?_withFile h content (hpaths path hpath).1 (hpaths path hpath).2
  have hsetting : (d.user.settingsFiles.findSome? fun path =>
        ((d.withFile place content).read? path).bind Ignore.excludesFile?) =
      d.user.settingsFiles.findSome? fun path => (d.read? path).bind Ignore.excludesFile? := by
    rw [← List.head?_filterMap, ← List.head?_filterMap]
    refine congrArg List.head? (List.filterMap_congr fun path hpath => ?_)
    rw [hread (List.mem_append_left _ hpath)]
  have hfile : (d.withFile place content).ownFile? = d.ownFile? :=
    congrArg (fun named => named.map d.user.expand <|> d.user.settingsDir?.map (joinPath · "git/ignore")) hsetting
  rw [ownRules, ownRules, hfile]
  cases hown : d.ownFile? with
  | none => rfl
  | some path => rw [Option.bind_some, Option.bind_some, hread (by simp [hown])]

end Disk

namespace Walk

section Disks

variable {d : Disk} {o : WalkOptions} {patterns : List Glob} {root : String}
  {place new names : List String} {content : List UInt8}

/-- The rules above a place stay the same. -/
theorem layersAbove_insert (h : d.top.Vacant (place ++ new)) (hrules : RuleFree (place ++ new))
    (hthere : (d.top.descend place).isSome = true) :
    layersAbove (d.withFile (place ++ new) content) o place = layersAbove d o place := by
  refine List.filterMap_congr fun n hn => ?_
  have hsplit : place ++ new = place.take n ++ (place.drop n ++ new) := by
    rw [← List.append_assoc, List.take_append_drop]
  obtain ⟨sub, hsub⟩ : ∃ sub, d.top.descend (place.take n) = some sub := by
    rw [← List.take_append_drop n place, Entry.descend_append] at hthere
    exact Option.isSome_iff_exists.mp (Option.isSome_of_isSome_bind hthere)
  have hlayer : Layer.ofDir o (placePath (place.take n))
      (sub.insert (place.drop n ++ new) (.file content)) =
      Layer.ofDir o (placePath (place.take n)) sub :=
    layer_insert o _ ((hsplit ▸ h).below hsub)
      (hrules.of_suffix (by rw [hsplit]; exact List.suffix_append _ _))
  have hsub' : (d.withFile (place ++ new) content).top.descend (place.take n) =
      some (sub.insert (place.drop n ++ new) (.file content)) := by
    rw [hsplit]
    exact Entry.descend_insert_append hsub _ _
  rw [hsub, hsub', Option.map_some, Option.map_some, hlayer]

/-- A walk comes to the same other sources. -/
theorem candidate_withFile_iff (h : d.top.Vacant (place ++ new)) (hrules : RuleFree (place ++ new))
    (hown : (d.withFile (place ++ new) content).ownRules = d.ownRules)
    {e : Entry} (he : d.top.descend place = some e) (hne : names ≠ new) :
    Candidate (d.withFile (place ++ new) content) o patterns root place names ↔
      Candidate d o patterns root place names := by
  have hnew : e.Vacant new := h.below he
  have hscope : rootScope (d.withFile (place ++ new) content) o root place =
      rootScope d o root place := by
    rw [rootScope, layersAbove_insert h hrules (by simp [he]), hown]
    rfl
  have he' : (d.withFile (place ++ new) content).top.descend place =
      some (e.insert new (.file content)) :=
    Entry.descend_insert_append he _ _
  have hdir : (e.insert new (.file content)).isDir = e.isDir := by
    obtain ⟨es, rfl⟩ := hnew.eq_dir
    exact hnew.isDir_insert _
  have hreaches :
      Reaches o patterns (rootScope d o root place) root "" (e.insert new (.file content)) names ↔
        Reaches o patterns (rootScope d o root place) root "" e names :=
    reaches_insert_iff hnew (hrules.of_suffix (List.suffix_append place new)) hne
  simp [Candidate, he, he', hscope, hdir, hreaches]

/-! ## The listing -/

theorem eq_of_mem_iff {as bs : List (List String)} (ha : as.Pairwise (· < ·))
    (hb : bs.Pairwise (· < ·)) (h : ∀ x, x ∈ as ↔ x ∈ bs) : as = bs := by
  have hperm : as.Perm bs :=
    (List.perm_ext_iff_of_nodup (ha.imp ne_of_lt) (hb.imp ne_of_lt)).mpr h
  exact hperm.eq_of_pairwise (fun _ _ _ _ hab hba => absurd hba (lt_asymm hab)) ha hb

/-- A sorted list with one more member. -/
theorem exists_split {as bs : List (List String)} (ha : as.Pairwise (· < ·))
    (hb : bs.Pairwise (· < ·)) {x : List String} (hx : x ∈ bs) (hnew : x ∉ as)
    (h : ∀ y, y ≠ x → (y ∈ bs ↔ y ∈ as)) :
    ∃ before after, as = before ++ after ∧ bs = before ++ x :: after := by
  obtain ⟨before, after, rfl⟩ := List.append_of_mem hx
  refine ⟨before, after, ?_, rfl⟩
  have hsub : (before ++ after).Sublist (before ++ x :: after) :=
    (List.Sublist.refl before).append (List.sublist_cons_self x after)
  refine eq_of_mem_iff ha (hb.sublist hsub) fun y => ?_
  have hnot : x ∉ before ++ after := by
    have hnodup := List.nodup_middle.mp (hb.imp ne_of_lt)
    exact (List.nodup_cons.mp hnodup).1
  by_cases hy : y = x
  · exact iff_of_false (hy ▸ hnew) (hy ▸ hnot)
  · rw [← h y hy]
    simp [hy]

/-- The sources are listed as before, with the new file in its place if that is one. -/
theorem listing_withFile (h : d.top.Vacant (place ++ new)) (hrules : RuleFree (place ++ new))
    (hown : (d.withFile (place ++ new) content).ownRules = d.ownRules) {e : Entry}
    (he : d.top.descend place = some e) {places places' : List (List String)}
    (hsorted : places.Pairwise (· < ·)) (hsorted' : places'.Pairwise (· < ·))
    (hmem : ∀ names, names ∈ places ↔ Candidate d o patterns root place names)
    (hmem' : ∀ names, names ∈ places' ↔
      Candidate (d.withFile (place ++ new) content) o patterns root place names) :
    (new ∉ places' → places' = places) ∧
      (new ∈ places' → ∃ before after, places = before ++ after ∧ places' = before ++ new :: after) := by
  have hnew : new ∉ places := fun hin => by
    obtain ⟨c, hc⟩ := ((hmem new).mp hin).exists_contentAt
    simp [Entry.contentAt, h.free] at hc
  have hsame (names : List String) (hne : names ≠ new) : names ∈ places' ↔ names ∈ places := by
    rw [hmem, hmem', candidate_withFile_iff h hrules hown he hne]
  refine ⟨fun hout => ?_, fun hin => exists_split hsorted hsorted' hin hnew hsame⟩
  refine eq_of_mem_iff hsorted' hsorted fun names => ?_
  by_cases hne : names = new
  · exact iff_of_false (hne ▸ hout) (hne ▸ hnew)
  · exact hsame names hne

end Disks

end Walk

end TypeCensus
