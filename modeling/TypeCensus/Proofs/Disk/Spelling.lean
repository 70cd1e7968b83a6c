import TypeCensus.Proofs.Disk.Paths

/-!
# Spelling — the text of a path made of names

The text of a path some names below another one is that of the other path, with a slash after it unless it ends in one,
and then the names with slashes between them.

* `toList_joinPath`, `opened_joinPath`: what a name adds.
* `toList_below`: what names add.
* `mem_components_iff`: the components of a path, by what stands around them.
-/

namespace TypeCensus

/-- The text of a path with the slash that a name needs before it. -/
def opened (path : String) : List Char :=
  if path.isEmpty || path.endsWith "/" then path.toList else path.toList ++ ['/']

/-- The text of names in a path, whatever stands before them. -/
def inner (names : List String) : List Char := ("/".intercalate names).toList

theorem endsWith_slash_iff {path : String} :
    path.endsWith "/" = true ↔ path.toList.getLast? = some '/' := by
  have hsuffix : path.endsWith "/" = true ↔ ['/'] <:+ path.toList := by
    rw [← String.endsWith_toSlice, String.Slice.endsWith_string_iff, String.copy_toSlice]
    rfl
  rw [hsuffix, List.getLast?_eq_some_iff]
  exact ⟨fun ⟨cs, hcs⟩ => ⟨cs, hcs.symm⟩, fun ⟨cs, hcs⟩ => ⟨cs, hcs.symm⟩⟩

/-- The text of a path ends where its slash stands, or before that. -/
theorem opened_cases {path : String} (h : path ≠ "") :
    (opened path = path.toList ∨ opened path = path.toList ++ ['/']) ∧
      (opened path).getLast? = some '/' := by
  rw [opened, String.isEmpty_eq_false_iff.mpr h, Bool.false_or]
  split
  · next hslash => exact ⟨.inl rfl, endsWith_slash_iff.mp hslash⟩
  · exact ⟨.inr rfl, by simp⟩

theorem toList_joinPath (path name : String) : (joinPath path name).toList = opened path ++ name.toList := by
  rw [joinPath, opened]
  split <;> simp

theorem opened_joinPath (path : String) {name : String} (h : ProperName name) :
    opened (joinPath path name) = opened path ++ name.toList ++ ['/'] := by
  obtain ⟨hne, -, -, hslash⟩ := h
  have hname : name.toList ≠ [] := fun hnil => hne (String.toList_inj.mp (by simpa using hnil))
  obtain ⟨cs, c, hcs⟩ := (List.eq_nil_or_concat' name.toList).resolve_left hname
  have hlast : (joinPath path name).toList.getLast? = some c := by
    rw [toList_joinPath, hcs, ← List.append_assoc, List.getLast?_concat]
  have hc : c ≠ '/' := by
    rintro rfl
    exact hslash (by simp [hcs])
  have hempty : joinPath path name ≠ "" := by
    intro hjoin
    simp [hjoin] at hlast
  have hends : (joinPath path name).endsWith "/" = false :=
    Bool.eq_false_iff.mpr fun hslash => hc (Option.some.inj (hlast.symm.trans (endsWith_slash_iff.mp hslash)))
  rw [opened, String.isEmpty_eq_false_iff.mpr hempty, hends, Bool.or_false, if_neg Bool.false_ne_true,
    toList_joinPath]

@[simp] theorem inner_singleton (name : String) : inner [name] = name.toList := by simp [inner]

theorem inner_cons_cons (n m : String) (names : List String) :
    inner (n :: m :: names) = n.toList ++ '/' :: inner (m :: names) := by
  simp [inner]

/-- The text of a path some names below another one. -/
theorem toList_below (path : String) {names : List String} (hne : names ≠ [])
    (h : ∀ n ∈ names, ProperName n) : (below path names).toList = opened path ++ inner names := by
  induction names generalizing path with
  | nil => exact absurd rfl hne
  | cons n names ih =>
    rw [below_cons]
    cases names with
    | nil => rw [below_nil, toList_joinPath, inner_singleton]
    | cons m names =>
      rw [ih _ (List.cons_ne_nil m names) fun k hk => h k (List.mem_cons_of_mem n hk),
        opened_joinPath path (h n (by simp)), inner_cons_cons]
      simp

theorem below_append (path : String) (above rest : List String) :
    below path (above ++ rest) = below (below path above) rest := List.foldl_append

/-! ## Components -/

theorem mem_splitOn_append_slash {part cs : List Char} (hne : part ≠ []) :
    part ∈ (cs ++ ['/']).splitOn '/' ↔ part ∈ cs.splitOn '/' := by
  rw [List.splitOn_append_cons_self cs [], List.splitOn_nil]
  simp [hne]

theorem exists_of_mem_splitOn {part cs : List Char} (h : part ∈ cs.splitOn '/') :
    ∃ above below, cs ++ ['/'] = above ++ part ++ '/' :: below ∧
      (above = [] ∨ above.getLast? = some '/') := by
  by_cases hslash : '/' ∈ cs
  · obtain ⟨first, rest, rfl, hfirst⟩ := List.eq_append_cons_of_mem hslash
    rw [List.splitOn_append_cons_self, List.splitOn_eq_singleton hfirst, List.singleton_append,
      List.mem_cons] at h
    obtain rfl | h := h
    · exact ⟨[], rest ++ ['/'], by simp, .inl rfl⟩
    · obtain ⟨above, below, heq, habove⟩ := exists_of_mem_splitOn h
      refine ⟨first ++ '/' :: above, below, by simp [heq], .inr ?_⟩
      obtain rfl | habove := habove
      · simp
      · rw [List.getLast?_append_cons]
        simp [List.getLast?_cons, habove]
  · rw [List.splitOn_eq_singleton hslash, List.mem_singleton] at h
    exact ⟨[], [], by simp [h], .inl rfl⟩
termination_by cs.length
decreasing_by subst_vars; simp; omega

theorem mem_splitOn_of_eq {part cs above below : List Char} (hne : part ≠ []) (hpart : '/' ∉ part)
    (h : cs ++ ['/'] = above ++ part ++ '/' :: below) (habove : above = [] ∨ above.getLast? = some '/') :
    part ∈ cs.splitOn '/' := by
  rw [← mem_splitOn_append_slash hne, h, List.splitOn_append_cons_self]
  refine List.mem_append_left _ ?_
  obtain rfl | habove := habove
  · simp [List.splitOn_eq_singleton hpart]
  · obtain ⟨above, rfl⟩ := List.getLast?_eq_some_iff.mp habove
    rw [List.append_assoc, List.singleton_append, List.splitOn_append_cons_self, List.splitOn_eq_singleton hpart]
    simp

/-- A name is a component of a path if it stands between two slashes there, or at one of the ends. -/
theorem mem_components_iff {name path : String} (hname : ProperName name) (hpath : path ≠ "") :
    name ∈ Disk.components path ↔ ∃ above below,
      opened path = above ++ name.toList ++ '/' :: below ∧ (above = [] ∨ above.getLast? = some '/') := by
  obtain ⟨hne, -, -, hslash⟩ := hname
  have hne : name.toList ≠ [] := fun hnil => hne (String.toList_inj.mp (by simpa using hnil))
  have hmem : name ∈ Disk.components path ↔ name.toList ∈ path.toList.splitOn '/' := by
    rw [Disk.components, List.mem_map]
    refine ⟨?_, fun h => ⟨_, h, String.ofList_toList⟩⟩
    rintro ⟨part, hpart, rfl⟩
    simpa using hpart
  obtain ⟨cs, hopened, hcs⟩ : ∃ cs, opened path = cs ++ ['/'] ∧
      (name.toList ∈ path.toList.splitOn '/' ↔ name.toList ∈ cs.splitOn '/') := by
    obtain ⟨hopened | hopened, hend⟩ := opened_cases hpath
    · obtain ⟨cs, hcs⟩ := List.getLast?_eq_some_iff.mp hend
      exact ⟨cs, hcs, by rw [← hopened, hcs, mem_splitOn_append_slash hne]⟩
    · exact ⟨path.toList, hopened, Iff.rfl⟩
  rw [hmem, hcs, hopened]
  refine ⟨exists_of_mem_splitOn, ?_⟩
  rintro ⟨above, below, heq, habove⟩
  exact mem_splitOn_of_eq hne hslash heq habove

end TypeCensus
