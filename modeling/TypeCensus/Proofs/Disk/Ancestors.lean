import TypeCensus.Proofs.Disk.Paths

/-!
# Ancestors — the directories above a path

A path takes steps: the components that say something, and a `.` that it begins with.  The directory above it has all
steps but the last one, and is spelled as the path begins.

* `steps_append_slash`: the steps of a path in two parts.
* `above_trimPath`, `LastStep.above`: what can be left out of the end of a path.
* `parent?_cases`: the directory above a path.
* `ancestor?_cases`: the directories further up, which are as many as the steps.
* `find?_selfAndAbove`: a search goes through them in turn.
-/

namespace TypeCensus

namespace Disk

/-! ## Steps -/

/-- The steps of a path: its proper components, after a `.` if it begins with one. -/
def steps (path : String) : List String :=
  (if (components path).head? = some "." then ["."] else []) ++ properComponents path

theorem components_ne_nil (path : String) : components path ≠ [] := by
  simp [components, List.splitOn_ne_nil]

/-- The steps of a path in two parts. -/
theorem steps_append_slash (path rest : String) :
    steps (path ++ "/" ++ rest) = steps path ++ properComponents rest := by
  have hhead : (components (path ++ "/" ++ rest)).head? = (components path).head? := by
    rw [components_append_slash, List.head?_append_of_ne_nil _ (components_ne_nil path)]
  rw [steps, hhead, steps, properComponents, components_append_slash, List.filter_append,
    List.append_assoc]
  rfl

@[simp] theorem steps_empty : steps "" = [] := by decide

/-- What ends in a slash takes the same steps without it. -/
theorem steps_slash (path : String) : steps (path ++ "/") = steps path := by
  have h := steps_append_slash path ""
  rwa [String.append_empty, show properComponents "" = [] by decide, List.append_nil] at h

theorem properComponents_name {name : String} (hslash : '/' ∉ name.toList) (hne : name ≠ "")
    (hdot : name ≠ ".") : properComponents name = [name] := by
  simp [properComponents, components_name hslash, hne, hdot]

/-- What holds no slash is one step. -/
theorem steps_name {name : String} (hslash : '/' ∉ name.toList) (hne : name ≠ "") :
    steps name = [name] := by
  by_cases hdot : name = "."
  · subst hdot
    decide
  · rw [steps, components_name hslash, properComponents_name hslash hne hdot]
    simp [hdot]

/-! ## Above a path -/

/-- A path so many steps above another one: it is spelled as that one begins, and goes from the same place. -/
structure Above (n : Nat) (path dir : String) : Prop where
  begins : dir.toList <+: path.toList
  absolute : dir.startsWith "/" = path.startsWith "/"
  steps : steps dir = (steps path).take ((steps path).length - n)

theorem Above.refl (path : String) : Above 0 path path where
  begins := List.prefix_rfl
  absolute := rfl
  steps := by simp

theorem Above.trans {m n : Nat} {path dir top : String} (h : Above m path dir) (h' : Above n dir top) :
    Above (m + n) path top where
  begins := h'.begins.trans h.begins
  absolute := h'.absolute.trans h.absolute
  steps := by
    rw [h'.steps, h.steps, List.take_take, List.length_take]
    congr 1
    omega

/-! ## The directory above a path -/

theorem ofList_reverse_cons (c : Char) (cs : List Char) :
    String.ofList (c :: cs).reverse = .ofList cs.reverse ++ .singleton c := by
  apply String.toList_inj.mp
  simp

/-- What is left out of the end of a path says nothing. -/
theorem above_trimPath (cs : List Char) :
    Above 0 (.ofList cs.reverse) (.ofList (trimPath cs).reverse) := by
  induction cs using trimPath.induct with
  | case1 c cs ih =>
    have hne : String.ofList (c :: cs).reverse ≠ "" := by simp
    rw [trimPath, ofList_reverse_cons '/']
    refine Above.trans (n := 0) ⟨by simp, (startsWith_append hne).symm, ?_⟩ ih
    simpa using (steps_slash _).symm
  | case2 cs ih =>
    have hne : String.ofList ('/' :: cs).reverse ≠ "" := by simp
    rw [trimPath, ofList_reverse_cons '.']
    refine Above.trans (n := 0) ⟨by simp, (startsWith_append hne).symm, ?_⟩ ih
    -- the slash stays, as it may be the first one, and is left out in the next turn
    have hdot := steps_append_slash (.ofList cs.reverse) "."
    rw [show properComponents "." = [] by decide, List.append_nil] at hdot
    rw [ofList_reverse_cons '/', Nat.sub_zero, List.take_length]
    exact (steps_slash _).trans hdot.symm
  | case3 cs hslash hdot =>
    rw [trimPath.eq_3 cs hslash hdot]
    exact Above.refl _

/-- The last step of a path and what stands before it, both in reverse. -/
structure LastStep (last rest : List Char) : Prop where
  ne_nil : last ≠ []
  noSlash : '/' ∉ last
  before : rest = [] ∨ last ≠ ['.'] ∧ ∃ above, rest = '/' :: above

/-- What is left of a path is empty, or one slash, or ends in a step. -/
theorem trimPath_cases (cs : List Char) :
    trimPath cs = [] ∨ trimPath cs = ['/'] ∨ ∃ last rest, trimPath cs = last ++ rest ∧ LastStep last rest := by
  induction cs using trimPath.induct with
  | case1 c cs ih => rwa [trimPath]
  | case2 cs ih => rwa [trimPath]
  | case3 cs hslash hdot =>
    rw [trimPath.eq_3 cs hslash hdot]
    by_cases hmem : '/' ∈ cs
    · obtain ⟨last, above, rfl, hlast⟩ := List.eq_append_cons_of_mem hmem
      cases last with
      | nil =>
        cases above with
        | nil => exact .inr (.inl rfl)
        | cons c above => exact absurd rfl (hslash c above)
      | cons c last =>
        refine .inr (.inr ⟨c :: last, '/' :: above, rfl, List.cons_ne_nil c last, hlast,
          .inr ⟨?_, above, rfl⟩⟩)
        intro heq
        exact hdot above (by rw [heq]; rfl)
    · obtain rfl | hne := eq_or_ne cs []
      · exact .inl rfl
      · exact .inr (.inr ⟨cs, [], (List.append_nil cs).symm, hne, hmem, .inl rfl⟩)

/-- The last step of a path can be left out. -/
theorem LastStep.above {last rest : List Char} (h : LastStep last rest) :
    Above 1 (.ofList (last ++ rest).reverse) (.ofList rest.reverse) ∧
      steps (.ofList (last ++ rest).reverse) ≠ [] := by
  have hslash : '/' ∉ (String.ofList last.reverse).toList := by simpa using h.noSlash
  have hname : String.ofList last.reverse ≠ "" := by simpa using h.ne_nil
  obtain rfl | ⟨hdot, above, rfl⟩ := h.before
  · rw [List.append_nil]
    have hsteps := steps_name hslash hname
    refine ⟨⟨by simp, ?_, ?_⟩, by simp [hsteps]⟩
    · have hstart : ¬ (String.ofList last.reverse).startsWith "/" = true := by
        rw [String.startsWith_string_iff]
        exact fun hstart => hslash (hstart.subset (by simp))
      rw [Bool.eq_false_iff.mpr hstart]
      decide
    · simp [hsteps]
  · have hsplit : String.ofList (last ++ '/' :: above).reverse =
        .ofList above.reverse ++ "/" ++ .ofList last.reverse := by
      apply String.toList_inj.mp
      simp
    have hup : String.ofList ('/' :: above).reverse = .ofList above.reverse ++ "/" :=
      ofList_reverse_cons '/' above
    have hproper : properComponents (.ofList last.reverse) = [.ofList last.reverse] := by
      refine properComponents_name hslash hname fun heq => hdot ?_
      simpa using congrArg (List.reverse ∘ String.toList) heq
    have hsteps := steps_append_slash (.ofList above.reverse) (.ofList last.reverse)
    rw [hproper] at hsteps
    rw [hsplit, hup]
    refine ⟨⟨by simp, (startsWith_append (by simp)).symm, ?_⟩, by simp [hsteps]⟩
    rw [hsteps, steps_slash]
    simp

/-- The directory above a path: there is none if the path takes no step. -/
theorem parent?_cases (path : String) :
    (parent? path = none ∧ steps path = []) ∨
      ∃ up, parent? path = some up ∧ Above 1 path up ∧ steps path ≠ [] := by
  have htrim := above_trimPath path.toList.reverse
  rw [List.reverse_reverse, String.ofList_toList] at htrim
  have hsteps := htrim.steps
  rw [Nat.sub_zero, List.take_length] at hsteps
  obtain hnil | hroot | ⟨last, rest, heq, hlast⟩ := trimPath_cases path.toList.reverse
  · refine .inl ⟨by rw [parent?, hnil], ?_⟩
    rw [← hsteps, hnil]
    rfl
  · refine .inl ⟨by rw [parent?, hroot]; rfl, ?_⟩
    rw [← hsteps, hroot]
    rfl
  · have hdrop : (last ++ rest).dropWhile (· != '/') = rest := by
      rw [List.dropWhile_append_of_pos]
      · obtain rfl | ⟨-, above, rfl⟩ := hlast.before <;> simp
      · intro c hc
        simpa using ne_of_mem_of_not_mem hc hlast.noSlash
    have hup : parent? path = some (.ofList (trimPath rest).reverse) := by
      rw [parent?, heq]
      split
      · next hnil => exact absurd (List.append_eq_nil_iff.mp hnil).1 hlast.ne_nil
      · next hroot =>
        obtain ⟨rfl, -⟩ | ⟨rfl, -⟩ := List.append_eq_singleton_iff.mp hroot
        · exact absurd rfl hlast.ne_nil
        · exact absurd hlast.noSlash (by simp)
      · rw [hdrop]
    rw [heq] at htrim hsteps
    obtain ⟨habove, hsome⟩ := hlast.above
    exact .inr ⟨_, hup, (htrim.trans habove).trans (above_trimPath rest), hsteps ▸ hsome⟩

/-! ## The directories further up -/

/-- The path of the directory so many steps up. -/
def ancestor? : Nat → String → Option String
  | 0, path => some path
  | n + 1, path => (parent? path).bind (ancestor? n)

/-- The directories above a path are as many as its steps, and each has one step less. -/
theorem ancestor?_cases (n : Nat) (path : String) :
    (ancestor? n path = none ∧ (steps path).length < n) ∨
      ∃ dir, ancestor? n path = some dir ∧ Above n path dir ∧ n ≤ (steps path).length := by
  induction n generalizing path with
  | zero => exact .inr ⟨path, rfl, Above.refl path, Nat.zero_le _⟩
  | succ n ih =>
    obtain ⟨hnone, hsteps⟩ | ⟨up, hup, habove, hsteps⟩ := parent?_cases path
    · exact .inl ⟨by rw [ancestor?, hnone]; rfl, by simp [hsteps]⟩
    · have hlength : (steps up).length + 1 = (steps path).length := by
        have hpos := List.length_pos_iff.mpr hsteps
        rw [habove.steps, List.length_take]
        omega
      rw [ancestor?, hup, Option.bind_some]
      obtain ⟨hnone, hlt⟩ | ⟨dir, hdir, habove', hle⟩ := ih up
      · exact .inl ⟨hnone, by omega⟩
      · exact .inr ⟨dir, hdir, Nat.add_comm 1 n ▸ habove.trans habove', by omega⟩

theorem above_of_ancestor? {n : Nat} {path dir : String} (h : ancestor? n path = some dir) :
    Above n path dir := by
  obtain ⟨hnone, -⟩ | ⟨dir', hdir, habove, -⟩ := ancestor?_cases n path
  · simp [hnone] at h
  · exact Option.some.inj (hdir.symm.trans h) ▸ habove

theorem exists_ancestor?_iff {n : Nat} {path : String} :
    (∃ dir, ancestor? n path = some dir) ↔ n ≤ (steps path).length := by
  obtain ⟨hnone, hlt⟩ | ⟨dir, hdir, -, hle⟩ := ancestor?_cases n path
  · exact iff_of_false (by simp [hnone]) (by omega)
  · exact iff_of_true ⟨dir, hdir⟩ hle

theorem getElem?_selfAndAbove (n i : Nat) (path : String) :
    (selfAndAbove n path)[i]? = if i < n then ancestor? i path else none := by
  induction n generalizing i path with
  | zero => rfl
  | succ n ih =>
    rw [selfAndAbove]
    cases i with
    | zero => rfl
    | succ i =>
      rw [List.getElem?_cons_succ, ancestor?]
      cases parent? path with
      | none => simp
      | some up => simpa using ih i up

theorem mem_selfAndAbove {n : Nat} {path dir : String} :
    dir ∈ selfAndAbove n path ↔ ∃ i < n, ancestor? i path = some dir := by
  simp [List.mem_iff_getElem?, getElem?_selfAndAbove]

/-- A search through a path and the directories above it ends at the nearest one that fits. -/
theorem find?_selfAndAbove {n : Nat} {path dir : String} {fits : String → Bool} :
    (selfAndAbove n path).find? fits = some dir ↔ ∃ i < n, ancestor? i path = some dir ∧
      fits dir = true ∧ ∀ j < i, ∀ near, ancestor? j path = some near → fits near = false := by
  have hget {i : Nat} (hi : i < n) : (selfAndAbove n path)[i]? = ancestor? i path := by
    rw [getElem?_selfAndAbove, if_pos hi]
  rw [List.find?_eq_some_iff_getElem]
  constructor
  · rintro ⟨hfits, i, hlength, hdir, hnear⟩
    have hdir := List.getElem?_eq_some_iff.mpr ⟨hlength, hdir⟩
    rw [getElem?_selfAndAbove] at hdir
    split_ifs at hdir with hi
    refine ⟨i, hi, hdir, hfits, fun j hj near hup => ?_⟩
    obtain ⟨-, rfl⟩ := List.getElem?_eq_some_iff.mp ((hget (hj.trans hi)).trans hup)
    simpa using hnear j hj
  · rintro ⟨i, hi, hdir, hfits, hnear⟩
    obtain ⟨hlength, heq⟩ := List.getElem?_eq_some_iff.mp ((hget hi).trans hdir)
    refine ⟨hfits, i, hlength, heq, fun j hj => ?_⟩
    have hup := (hget (hj.trans hi)).symm.trans (List.getElem?_eq_getElem (hj.trans hlength))
    simp [hnear j hj _ hup]

end Disk

end TypeCensus
