import TypeCensus.Proofs.Disk.Entries
import Mathlib.Data.String.Basic

/-!
# Paths — paths made of names, and where they lead

`below root names` goes down from a path name by name.

* `components_joinPath`: a name that is added is the last component.
* `properComponents_below`, `pathLT_below`: paths below one root are ordered as their names are.
* `resolve?_below`, `read?_below`: where such a path leads, and what is read there.
* `Extends.resolve?`: on a disk with more entries, every path leads to the same place.
-/

namespace TypeCensus

/-- The path some names below another one. -/
def below (root : String) (names : List String) : String := names.foldl joinPath root

@[simp] theorem below_nil (root : String) : below root [] = root := rfl

@[simp] theorem below_cons (root name : String) (names : List String) :
    below root (name :: names) = below (joinPath root name) names := rfl

namespace Disk

/-! ## Components -/

theorem components_append_slash (path rest : String) :
    components (path ++ "/" ++ rest) = components path ++ components rest := by
  have hlist : (path ++ "/" ++ rest).toList = path.toList ++ '/' :: rest.toList := by simp
  rw [components, hlist, List.splitOn_append_cons_self, List.map_append]
  rfl

theorem components_name {name : String} (h : '/' ∉ name.toList) : components name = [name] := by
  rw [components, List.splitOn_eq_singleton h]
  simp

/-- A name that is added is the last component, and stands in the place of an empty one. -/
theorem components_joinPath (path : String) {name : String} (h : '/' ∉ name.toList) :
    ∃ cs, components (joinPath path name) = cs ++ [name] ∧
      (components path = cs ∨ components path = cs ++ [""]) := by
  by_cases hempty : path = ""
  · subst hempty
    refine ⟨[], ?_, .inr rfl⟩
    simp [joinPath, components_name h]
  by_cases hslash : path.endsWith "/" = true
  · obtain ⟨cs, hcs⟩ : "/".toList <:+ path.toList := by
      have hsuffix := String.Slice.endsWith_string_iff.mp (String.endsWith_toSlice.trans hslash)
      rwa [String.copy_toSlice] at hsuffix
    have hpath : path = String.ofList cs ++ "/" := by
      apply String.toList_inj.mp
      simpa using hcs.symm
    refine ⟨components (.ofList cs), ?_, .inr ?_⟩
    · rw [joinPath, hslash, Bool.or_true, if_pos rfl, hpath, components_append_slash,
        components_name h]
    · rw [hpath, ← String.append_empty (s := .ofList cs ++ "/"), components_append_slash]
      rfl
  · refine ⟨components path, ?_, .inl rfl⟩
    have hjoin : joinPath path name = path ++ "/" ++ name := by simp [joinPath, hempty, hslash]
    rw [hjoin, components_append_slash, components_name h]

/-! ## The order of paths -/

/-- The components of a path that say something. -/
def properComponents (path : String) : List String :=
  (components path).filter fun c => c ≠ "" && c ≠ "."

/-- Whether a path stands before another one, which is settled by the first component in which they differ. -/
def PathLT (p q : String) : Prop := properComponents p < properComponents q

theorem properComponents_joinPath (path : String) {name : String} (h : ProperName name) :
    properComponents (joinPath path name) = properComponents path ++ [name] := by
  obtain ⟨hne, hdot, -, hslash⟩ := h
  obtain ⟨cs, hjoin, hpath | hpath⟩ := components_joinPath path hslash
  · simp [properComponents, hjoin, hpath, hne, hdot]
  · simp [properComponents, hjoin, hpath, hne, hdot]

theorem properComponents_below (root : String) {names : List String}
    (h : ∀ n ∈ names, ProperName n) :
    properComponents (below root names) = properComponents root ++ names := by
  induction names generalizing root with
  | nil => simp
  | cons name names ih =>
    rw [below_cons, ih _ fun n hn => h n (by simp [hn]), properComponents_joinPath _ (h name (by simp))]
    simp

/-- Paths below one root are ordered as their names are. -/
theorem pathLT_below (root : String) {a b : List String} (ha : ∀ n ∈ a, ProperName n)
    (hb : ∀ n ∈ b, ProperName n) (h : a < b) : PathLT (below root a) (below root b) := by
  rw [PathLT, properComponents_below root ha, properComponents_below root hb]
  exact List.append_left_lt h

theorem below_inj (root : String) {a b : List String} (ha : ∀ n ∈ a, ProperName n)
    (hb : ∀ n ∈ b, ProperName n) (h : below root a = below root b) : a = b := by
  have hcomponents := congrArg properComponents h
  rwa [properComponents_below root ha, properComponents_below root hb,
    List.append_cancel_left_eq] at hcomponents

/-! ## Where paths lead -/

theorem follow_append (d : Disk) (place cs ds : List String) :
    d.follow place (cs ++ ds) = (d.follow place cs).bind (d.follow · ds) := by
  induction cs generalizing place with
  | nil => rfl
  | cons c cs ih =>
    simp only [List.cons_append, follow, ih]
    split
    · split_ifs <;> rfl
    · rfl

theorem follow_empty {d : Disk} {place place' : List String} (h : d.follow place [""] = some place') :
    place' = place := by
  simp only [follow] at h
  split at h
  · simpa using h.symm
  · simp at h

/-- A name leads to the entry with that name. -/
theorem follow_name {d : Disk} {place : List String} {name : String} (hname : ProperName name)
    (hthere : (d.top.descend (place.reverse ++ [name])).isSome = true) :
    d.follow place [name] = some (name :: place) := by
  obtain ⟨hne, hdot, hup, -⟩ := hname
  rw [Entry.descend_append] at hthere
  obtain ⟨sub, hsub⟩ := Option.isSome_iff_exists.mp hthere
  obtain ⟨e, he, hsub⟩ := Option.bind_eq_some_iff.mp hsub
  rw [Entry.descend_cons] at hsub
  obtain ⟨c, hc, -⟩ := Option.bind_eq_some_iff.mp hsub
  obtain ⟨es, rfl⟩ := Entry.eq_dir_of_child? hc
  simp [follow, he, hne, hdot, hup, Entry.any_name_of_child? hc]

theorem startsWith_append {path rest : String} (h : path ≠ "") :
    (path ++ rest).startsWith "/" = path.startsWith "/" := by
  have hne : path.toList ≠ [] := fun hnil => h (String.toList_inj.mp (by simpa using hnil))
  rw [Bool.eq_iff_iff, String.startsWith_string_iff, String.startsWith_string_iff]
  obtain ⟨c, cs, hcs⟩ := List.exists_cons_of_ne_nil hne
  simp [hcs]

theorem resolve?_joinPath {d : Disk} {path name : String} {place : List String}
    (h : d.resolve? path = some place) (hname : ProperName name)
    (hthere : (d.top.descend (place ++ [name])).isSome = true) :
    d.resolve? (joinPath path name) = some (place ++ [name]) := by
  have hne : path ≠ "" := by
    rintro rfl
    simp [resolve?] at h
  obtain ⟨rest, hrest⟩ : ∃ rest, joinPath path name = path ++ rest := by
    unfold joinPath
    split
    · exact ⟨name, rfl⟩
    · exact ⟨"/" ++ name, String.append_assoc⟩
  have hjoin : joinPath path name ≠ "" := by
    rw [hrest]
    simp [hne]
  have hstart : (joinPath path name).startsWith "/" = path.startsWith "/" := by
    rw [hrest, startsWith_append hne]
  simp only [resolve?, String.isEmpty_iff, if_neg hne, if_neg hjoin, hstart] at h ⊢
  generalize (if path.startsWith "/" = true then [] else d.current.reverse) = start at h ⊢
  obtain ⟨p, hp, rfl⟩ := Option.map_eq_some_iff.mp h
  obtain ⟨cs, hcs, hpath⟩ := components_joinPath path hname.2.2.2
  have hfollow : d.follow start cs = some p := by
    obtain hpath | hpath := hpath
    · rwa [hpath] at hp
    · rw [hpath, follow_append] at hp
      obtain ⟨p', hp', hempty⟩ := Option.bind_eq_some_iff.mp hp
      rw [hp', follow_empty hempty]
  rw [hcs, follow_append, hfollow, Option.bind_some, follow_name hname hthere]
  simp

/-- Where a path of names leads. -/
theorem resolve?_below {d : Disk} {root : String} {place names : List String}
    (h : d.resolve? root = some place) (hnames : ∀ n ∈ names, ProperName n)
    (hthere : (d.top.descend (place ++ names)).isSome = true) :
    d.resolve? (below root names) = some (place ++ names) := by
  induction names generalizing root place with
  | nil => simpa using h
  | cons name names ih =>
    have hsplit : place ++ name :: names = place ++ [name] ++ names := by simp
    rw [hsplit] at hthere ⊢
    have hname : (d.top.descend (place ++ [name])).isSome = true := by
      rw [Entry.descend_append] at hthere
      exact Option.isSome_of_isSome_bind hthere
    exact ih (resolve?_joinPath h (hnames name (by simp)) hname) (fun n hn => hnames n (by simp [hn]))
      hthere

/-- What is read at a path of names. -/
theorem read?_below {d : Disk} {root : String} {place names : List String} {content : List UInt8}
    (h : d.resolve? root = some place) (hnames : ∀ n ∈ names, ProperName n)
    (hcontent : d.top.contentAt (place ++ names) = some content) :
    d.read? (below root names) = some content := by
  obtain ⟨e, he, -⟩ := Option.bind_eq_some_iff.mp hcontent
  rw [read?, find?, resolve?_below h hnames (by simp [he])]
  exact hcontent

theorem exists_place_of_isDir {d : Disk} {root : String} (h : d.isDir root = true) :
    ∃ place es, d.resolve? root = some place ∧ d.top.descend place = some (.dir es) := by
  unfold isDir find? at h
  cases hplace : d.resolve? root with
  | none => simp [hplace] at h
  | some place =>
    rw [hplace, Option.bind_some] at h
    match hentry : d.top.descend place with
    | none => simp [hentry] at h
    | some (.file content) => simp [hentry, Entry.isDir] at h
    | some (.dir es) => exact ⟨place, es, rfl, hentry⟩

/-! ## A disk with more entries -/

/-- A disk on which every directory has at least the names that it has on another one. -/
def Extends (d' d : Disk) : Prop :=
  d'.current = d.current ∧ ∀ place es, d.top.descend place = some (.dir es) →
    ∃ es', d'.top.descend place = some (.dir es') ∧
      ∀ n, es.any (·.1 == n) = true → es'.any (·.1 == n) = true

theorem Extends.follow {d' d : Disk} (h : d'.Extends d) {place place' cs : List String}
    (hfollow : d.follow place cs = some place') : d'.follow place cs = some place' := by
  induction cs generalizing place with
  | nil => exact hfollow
  | cons c cs ih =>
    simp only [Disk.follow] at hfollow ⊢
    split at hfollow
    · next es hdir =>
      obtain ⟨es', hdir', hany⟩ := h.2 _ es hdir
      rw [hdir']
      split_ifs at hfollow with hstay hup hname
      · simpa [hstay] using ih hfollow
      · simpa [hstay, hup] using ih hfollow
      · simpa [hstay, hup, hany c hname] using ih hfollow
    · simp at hfollow

theorem Extends.resolve? {d' d : Disk} (h : d'.Extends d) {path : String} {place : List String}
    (hpath : d.resolve? path = some place) : d'.resolve? path = some place := by
  unfold Disk.resolve? at hpath ⊢
  rw [h.1]
  cases hempty : path.isEmpty with
  | true => simp [hempty] at hpath
  | false =>
    simp only [hempty, Bool.false_eq_true, if_false] at hpath ⊢
    obtain ⟨p, hp, rfl⟩ := Option.map_eq_some_iff.mp hpath
    rw [h.follow hp]
    rfl

end Disk

end TypeCensus
