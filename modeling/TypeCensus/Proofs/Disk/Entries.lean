import TypeCensus.Disk
import Mathlib.Data.List.Nodup
import Mathlib.Data.List.Infix

/-!
# Entries — trees of files, and a file put into one

A tree is proper if the entries of every directory have names of their own, none of which means anything else in a path.

* `child?_eq_some_iff`: in a proper directory, a name leads to the one entry with that name.
* `descend_insert_append`: a file put into a tree is put into the subtree on its way.
* `content_insert`, `dir_insert`: where it is put into a vacant place, every other file stays as it was, and every
  directory keeps its names.
* `Proper.insert`: a proper tree stays proper.
-/

namespace TypeCensus

/-- A name that an entry can have. -/
def ProperName (name : String) : Prop := name ≠ "" ∧ name ≠ "." ∧ name ≠ ".." ∧ '/' ∉ name.toList

instance (name : String) : Decidable (ProperName name) :=
  inferInstanceAs (Decidable (name ≠ "" ∧ name ≠ "." ∧ name ≠ ".." ∧ '/' ∉ name.toList))

namespace Entry

/-- A tree as a file system holds it. -/
inductive Proper : Entry → Prop
  | file (content : List UInt8) : Proper (.file content)
  | dir {es : List (String × Entry)} (nodup : (es.map (·.1)).Nodup)
      (names : ∀ x ∈ es, ProperName x.1) (entries : ∀ x ∈ es, Proper x.2) : Proper (.dir es)

/-- A place at which there is nothing, and no file on the way to it. -/
structure Vacant (e : Entry) (names : List String) : Prop where
  free : e.descend names = none
  way : ∀ above, above <+: names → ∀ content, e.descend above ≠ some (.file content)

/-! ## Going down -/

@[simp] theorem descend_nil (e : Entry) : e.descend [] = some e := rfl

theorem descend_cons (e : Entry) (name : String) (names : List String) :
    e.descend (name :: names) = (e.child? name).bind (·.descend names) := rfl

theorem descend_append (e : Entry) (above below : List String) :
    e.descend (above ++ below) = (e.descend above).bind (·.descend below) := by
  induction above generalizing e with
  | nil => rfl
  | cons name above ih =>
    simp only [List.cons_append, descend_cons, ih]
    cases e.child? name <;> rfl

/-- Only a directory has children. -/
theorem eq_dir_of_child? {e c : Entry} {name : String} (h : e.child? name = some c) :
    ∃ es, e = .dir es := by
  cases e with
  | file content => simp [child?] at h
  | dir es => exact ⟨es, rfl⟩

theorem any_name_of_child? {es : List (String × Entry)} {name : String} {c : Entry}
    (h : (Entry.dir es).child? name = some c) : es.any (·.1 == name) = true := by
  simp only [child?, Option.map_eq_some_iff] at h
  obtain ⟨x, hfind, -⟩ := h
  have hx := List.find?_some hfind
  exact List.any_eq_true.mpr ⟨x, List.mem_of_find?_eq_some hfind, hx⟩

theorem exists_child?_of_any {es : List (String × Entry)} {name : String}
    (h : es.any (·.1 == name) = true) : ∃ c, (Entry.dir es).child? name = some c := by
  obtain ⟨x, hmem, hx⟩ := List.any_eq_true.mp h
  cases hfind : es.find? (·.1 == name) with
  | none => exact absurd hx (List.find?_eq_none.mp hfind x hmem)
  | some y => exact ⟨y.2, by simp [child?, hfind]⟩

/-- A name leads to the one entry with that name. -/
theorem child?_eq_some_iff {es : List (String × Entry)} (h : (es.map (·.1)).Nodup) {name : String}
    {c : Entry} : (Entry.dir es).child? name = some c ↔ (name, c) ∈ es := by
  constructor
  · intro hchild
    simp only [child?, Option.map_eq_some_iff] at hchild
    obtain ⟨⟨n, e⟩, hfind, rfl⟩ := hchild
    have hn : n = name := by simpa using List.find?_some hfind
    exact hn ▸ List.mem_of_find?_eq_some hfind
  · intro hmem
    obtain ⟨c', hc'⟩ := exists_child?_of_any (List.any_eq_true.mpr ⟨_, hmem, beq_self_eq_true name⟩)
    rw [hc']
    simp only [child?, Option.map_eq_some_iff] at hc'
    obtain ⟨x, hfind, rfl⟩ := hc'
    have hx : x.1 = name := by simpa using List.find?_some hfind
    have heq := List.inj_on_of_nodup_map h (List.mem_of_find?_eq_some hfind) hmem hx
    rw [heq]

/-! ## Putting in -/

theorem map_fst_put (name : String) (new : Entry) (es : List (String × Entry)) :
    (put name new es).map (·.1) =
      if name ∈ es.map (·.1) then es.map (·.1) else es.map (·.1) ++ [name] := by
  induction es with
  | nil => simp [put]
  | cons x es ih =>
    obtain ⟨n, e⟩ := x
    by_cases hn : n = name
    · simp [put, hn]
    · have hn' : name ≠ n := fun h => hn h.symm
      simp only [put, if_neg hn, List.map_cons, ih, List.mem_cons, hn', false_or]
      split <;> rfl

theorem eq_or_mem_of_mem_put {name : String} {new : Entry} {es : List (String × Entry)}
    {x : String × Entry} (h : x ∈ put name new es) : x = (name, new) ∨ x ∈ es := by
  induction es with
  | nil => simpa [put] using h
  | cons y es ih =>
    obtain ⟨n, e⟩ := y
    by_cases hn : n = name
    · rw [put, if_pos hn, hn, List.mem_cons] at h
      exact h.imp_right (List.mem_cons_of_mem _)
    · simp only [put, if_neg hn, List.mem_cons] at h ⊢
      rcases h with h | h
      · exact .inr (.inl h)
      · exact (ih h).imp_right .inr

theorem child?_put (name : String) (new : Entry) (es : List (String × Entry)) (n : String) :
    (Entry.dir (put name new es)).child? n =
      if n = name then some new else (Entry.dir es).child? n := by
  induction es with
  | nil =>
    by_cases h : n = name
    · simp [put, child?, h]
    · have h' : name ≠ n := fun heq => h heq.symm
      simp [put, child?, h, h']
  | cons x es ih =>
    obtain ⟨m, e⟩ := x
    by_cases hm : m = name
    · by_cases hn : n = name
      · simp [put, child?, hm, hn]
      · have hn' : name ≠ n := fun heq => hn heq.symm
        simp [put, child?, hm, hn, hn']
    · by_cases hmn : m = n
      · have hn : n ≠ name := fun heq => hm (hmn.trans heq)
        simp [put, child?, hmn, hn]
      · simp only [put, if_neg hm]
        simp only [child?, List.find?_cons, beq_eq_false_iff_ne.mpr hmn] at ih ⊢
        exact ih

/-- What stands under a name; an empty directory, if there is nothing. -/
def subtree (e : Entry) (name : String) : Entry := (e.child? name).getD (dir [])

theorem insert_nil (e new : Entry) : e.insert [] new = new := by rw [insert.eq_def]

theorem insert_dir_cons (es : List (String × Entry)) (name : String) (names : List String)
    (new : Entry) :
    (Entry.dir es).insert (name :: names) new =
      .dir (put name (((Entry.dir es).subtree name).insert names new) es) := by
  rw [insert.eq_def]
  rfl

/-- What is put into a tree is put into the subtree on its way. -/
theorem descend_insert_append {e sub : Entry} {above : List String} (h : e.descend above = some sub)
    (names : List String) (new : Entry) :
    (e.insert (above ++ names) new).descend above = some (sub.insert names new) := by
  induction above generalizing e with
  | nil =>
    obtain rfl : e = sub := by simpa using h
    rfl
  | cons name above ih =>
    rw [descend_cons] at h
    obtain ⟨c, hc, hsub⟩ := Option.bind_eq_some_iff.mp h
    obtain ⟨es, rfl⟩ := eq_dir_of_child? hc
    rw [List.cons_append, insert_dir_cons, descend_cons, child?_put, if_pos rfl, subtree, hc]
    exact ih hsub

theorem descend_insert_self (e : Entry) (names : List String) (new : Entry) :
    (e.insert names new).descend names = some new := by
  induction names generalizing e with
  | nil => rw [insert_nil, descend_nil]
  | cons name names ih =>
    rw [insert.eq_def]
    dsimp only
    rw [descend_cons, child?_put, if_pos rfl]
    exact ih _

/-! ## Vacant places -/

namespace Vacant

variable {e : Entry} {name : String} {names : List String}

theorem ne_nil {names : List String} (h : e.Vacant names) : names ≠ [] := by
  rintro rfl
  simpa using h.free

theorem eq_dir (h : e.Vacant names) : ∃ es, e = .dir es := by
  cases e with
  | file content => exact absurd rfl (h.way [] List.nil_prefix content)
  | dir es => exact ⟨es, rfl⟩

theorem isDir_insert (h : e.Vacant names) (new : Entry) : (e.insert names new).isDir = true := by
  obtain ⟨es, rfl⟩ := h.eq_dir
  obtain ⟨name, names, rfl⟩ := List.exists_cons_of_ne_nil h.ne_nil
  rw [insert_dir_cons]
  rfl

/-- Below a directory that is not there yet, every place is vacant. -/
theorem of_empty (h : names ≠ []) : (Entry.dir []).Vacant names := by
  obtain ⟨name, names, rfl⟩ := List.exists_cons_of_ne_nil h
  refine ⟨rfl, fun above _ content => ?_⟩
  cases above with
  | nil => simp
  | cons n above => simp [descend_cons, child?]

/-- One name further down, the place is vacant or nothing is there yet. -/
theorem tail (h : e.Vacant (name :: names)) :
    (names = [] ∧ e.child? name = none) ∨ (e.subtree name).Vacant names := by
  cases hc : e.child? name with
  | none =>
    rw [subtree, hc]
    by_cases hnames : names = []
    · exact .inl ⟨hnames, rfl⟩
    · exact .inr (of_empty hnames)
  | some c =>
    rw [subtree, hc]
    refine .inr ⟨?_, fun above habove content => ?_⟩
    · simpa [descend_cons, hc] using h.free
    · have hway := h.way (name :: above) (List.cons_prefix_cons.mpr ⟨rfl, habove⟩) content
      simpa [descend_cons, hc] using hway

/-- Going down to a place above it, the rest of the place is vacant. -/
theorem below {sub : Entry} {above : List String} (h : e.Vacant (above ++ names))
    (hsub : e.descend above = some sub) : sub.Vacant names := by
  refine ⟨?_, fun a ha content => ?_⟩
  · simpa [descend_append, hsub] using h.free
  · have hway := h.way (above ++ a) (List.prefix_append_right_inj above |>.mpr ha) content
    simpa [descend_append, hsub] using hway

end Vacant

/-- The content of the file some names further down, if there is one. -/
def contentAt (e : Entry) (names : List String) : Option (List UInt8) :=
  (e.descend names).bind content?

theorem contentAt_eq_none_iff {e : Entry} {names : List String} :
    e.contentAt names = none ↔ ∀ content, e.descend names ≠ some (.file content) := by
  rw [contentAt]
  cases e.descend names with
  | none => simp
  | some sub => cases sub <;> simp [content?]

theorem vacant_iff {e : Entry} {names : List String} :
    e.Vacant names ↔
      (e.descend names).isNone = true ∧ ∀ above ∈ names.inits, e.contentAt above = none := by
  simp only [Option.isNone_iff_eq_none, List.mem_inits, contentAt_eq_none_iff]
  exact ⟨fun h => ⟨h.free, h.way⟩, fun h => ⟨h.1, h.2⟩⟩

instance (e : Entry) (names : List String) : Decidable (e.Vacant names) :=
  decidable_of_iff _ vacant_iff.symm

theorem contentAt_cons (e : Entry) (name : String) (names : List String) :
    e.contentAt (name :: names) = (e.subtree name).contentAt names := by
  rw [contentAt, contentAt, descend_cons, subtree]
  cases e.child? name with
  | some c => rfl
  | none => cases names <;> rfl

theorem contentAt_append {e sub : Entry} {above : List String} (h : e.descend above = some sub)
    (names : List String) : e.contentAt (above ++ names) = sub.contentAt names := by
  rw [contentAt, descend_append, h, Option.bind_some, contentAt]

theorem subtree_put (name : String) (new : Entry) (es : List (String × Entry)) (n : String) :
    (Entry.dir (put name new es)).subtree n = if n = name then new else (Entry.dir es).subtree n := by
  rw [subtree, child?_put, subtree]
  split <;> rfl

/-- Every other file stays as it was. -/
theorem content_insert {e : Entry} {names : List String} (h : e.Vacant names) (content : List UInt8)
    {place : List String} (hne : place ≠ names) :
    (e.insert names (.file content)).contentAt place = e.contentAt place := by
  induction names generalizing e place with
  | nil => exact absurd rfl h.ne_nil
  | cons name names ih =>
    obtain ⟨es, rfl⟩ := h.eq_dir
    rw [insert_dir_cons]
    cases place with
    | nil => rfl
    | cons n place =>
      rw [contentAt_cons, contentAt_cons, subtree_put]
      split
      · next hn =>
        subst hn
        have hplace : place ≠ names := fun heq => hne (by rw [heq])
        obtain ⟨rfl, hnone⟩ | hsub := h.tail
        · obtain ⟨m, place, rfl⟩ := List.exists_cons_of_ne_nil hplace
          rw [insert_nil, subtree, hnone]
          rfl
        · exact ih hsub hplace
      · rfl

/-- A directory stays where it is, with all its names. -/
theorem dir_insert {e : Entry} {names : List String} (h : e.Vacant names) (content : List UInt8)
    {place : List String} {es : List (String × Entry)} (hdir : e.descend place = some (.dir es)) :
    ∃ es', (e.insert names (.file content)).descend place = some (.dir es') ∧
      ∀ n, es.any (·.1 == n) = true → es'.any (·.1 == n) = true := by
  induction names generalizing e place with
  | nil => exact absurd rfl h.ne_nil
  | cons name names ih =>
    obtain ⟨es₀, rfl⟩ := h.eq_dir
    rw [insert_dir_cons]
    cases place with
    | nil =>
      obtain rfl : es₀ = es := by simpa using hdir
      refine ⟨_, rfl, fun n hn => ?_⟩
      obtain ⟨c, hc⟩ := exists_child?_of_any hn
      by_cases heq : n = name
      · exact any_name_of_child? ((child?_put name _ es₀ n).trans (if_pos heq))
      · exact any_name_of_child? ((child?_put name _ es₀ n).trans ((if_neg heq).trans hc))
    | cons n place =>
      rw [descend_cons, child?_put]
      split
      · next hn =>
        subst hn
        rw [descend_cons] at hdir
        obtain ⟨c, hc, hdir⟩ := Option.bind_eq_some_iff.mp hdir
        obtain ⟨-, hnone⟩ | hsub := h.tail
        · simp [hc] at hnone
        · rw [subtree, hc] at hsub ⊢
          exact ih hsub hdir
      · exact ⟨es, hdir, fun n hn => hn⟩

/-! ## Proper trees -/

mutual

/-- Checks that a tree is proper. -/
def isProper : Entry → Bool
  | file _ => true
  | dir es => decide (es.map (·.1)).Nodup && areProper es

/-- Checks that entries have proper names and are proper. -/
def areProper : List (String × Entry) → Bool
  | [] => true
  | (name, e) :: es => decide (ProperName name) && isProper e && areProper es

end

theorem areProper_iff {es : List (String × Entry)} :
    areProper es = true ↔ ∀ x ∈ es, ProperName x.1 ∧ x.2.isProper = true := by
  induction es with
  | nil => simp [areProper]
  | cons x es ih => simp [areProper, ih]

theorem isProper_dir_iff {es : List (String × Entry)} :
    (dir es).isProper = true ↔
      (es.map (·.1)).Nodup ∧ ∀ x ∈ es, ProperName x.1 ∧ x.2.isProper = true := by
  rw [isProper, Bool.and_eq_true, decide_eq_true_eq, areProper_iff]

theorem Proper.isProper {e : Entry} (h : e.Proper) : e.isProper = true := by
  induction h with
  | file content => rw [Entry.isProper]
  | dir hnodup hnames _ ih => exact isProper_dir_iff.mpr ⟨hnodup, fun x hx => ⟨hnames x hx, ih x hx⟩⟩

theorem proper_of_isProper : (e : Entry) → e.isProper = true → e.Proper
  | file content, _ => .file content
  | dir es, h => by
    obtain ⟨hnodup, hentries⟩ := isProper_dir_iff.mp h
    refine .dir hnodup (fun x hx => (hentries x hx).1) fun x hx => ?_
    have hlt := List.sizeOf_lt_of_mem hx
    obtain ⟨name, e⟩ := x
    exact proper_of_isProper e (hentries _ hx).2
termination_by e => sizeOf e
decreasing_by simp_wf; simp only [Prod.mk.sizeOf_spec] at hlt; omega

instance (e : Entry) : Decidable e.Proper :=
  decidable_of_iff (e.isProper = true) ⟨proper_of_isProper e, Proper.isProper⟩

theorem Proper.subtree {e : Entry} (h : e.Proper) (name : String) : (e.subtree name).Proper := by
  rw [Entry.subtree]
  cases hc : e.child? name with
  | none => exact .dir (by simp) (by simp) (by simp)
  | some c =>
    obtain ⟨es, rfl⟩ := eq_dir_of_child? hc
    cases h with
    | dir hnodup _ hentries => exact hentries _ ((child?_eq_some_iff hnodup).mp hc)

/-- What stands in a proper tree is proper, and so is every name on the way to it. -/
theorem Proper.descend {e sub : Entry} {names : List String} (h : e.Proper)
    (hsub : e.descend names = some sub) : sub.Proper ∧ ∀ n ∈ names, ProperName n := by
  induction names generalizing e with
  | nil =>
    obtain rfl : e = sub := by simpa using hsub
    exact ⟨h, by simp⟩
  | cons name names ih =>
    rw [descend_cons] at hsub
    obtain ⟨c, hc, hbelow⟩ := Option.bind_eq_some_iff.mp hsub
    obtain ⟨es, rfl⟩ := eq_dir_of_child? hc
    cases h with
    | dir hnodup hnames hentries =>
      have hmem := (child?_eq_some_iff hnodup).mp hc
      obtain ⟨hproper, hrest⟩ := ih (hentries _ hmem) hbelow
      exact ⟨hproper, by simpa using ⟨hnames _ hmem, hrest⟩⟩

theorem Proper.put {es : List (String × Entry)} {name : String} {new : Entry}
    (h : (Entry.dir es).Proper) (hname : ProperName name) (hnew : new.Proper) :
    (Entry.dir (put name new es)).Proper := by
  cases h with
  | dir hnodup hnames hentries =>
    refine .dir ?_ (fun x hx => ?_) (fun x hx => ?_)
    · rw [map_fst_put]
      split
      · exact hnodup
      · next hfresh =>
        refine List.nodup_append.mpr ⟨hnodup, List.nodup_singleton name, fun n hn m hm => ?_⟩
        obtain rfl := List.mem_singleton.mp hm
        rintro rfl
        exact hfresh hn
    · obtain rfl | hx := eq_or_mem_of_mem_put hx
      · exact hname
      · exact hnames x hx
    · obtain rfl | hx := eq_or_mem_of_mem_put hx
      · exact hnew
      · exact hentries x hx

/-- A proper tree stays proper. -/
theorem Proper.insert {e new : Entry} {names : List String} (h : e.Proper) (hnew : new.Proper)
    (hvacant : e.Vacant names) (hnames : ∀ n ∈ names, ProperName n) : (e.insert names new).Proper := by
  induction names generalizing e with
  | nil => exact absurd rfl hvacant.ne_nil
  | cons name names ih =>
    obtain ⟨es, rfl⟩ := hvacant.eq_dir
    rw [insert_dir_cons]
    refine h.put (hnames name (by simp)) ?_
    obtain ⟨rfl, -⟩ | htail := hvacant.tail
    · rwa [insert_nil]
    · exact ih (h.subtree name) htail fun n hn => hnames n (by simp [hn])

end Entry

end TypeCensus
