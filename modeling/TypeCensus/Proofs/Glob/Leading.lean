import TypeCensus.Glob
import Mathlib.Data.List.Basic

/-!
# Leading — patterns that begin with any components

A pattern that begins with `**/` matches a text from any of its components on.  So what comes before a text in a path
can only add matches, and each match that it adds begins in it.

* `exists_parts_of_ofString`: how such a pattern is read.
* `matchParts_anyComponents_iff`: what it matches.
* `matchParts_append_iff`: what it matches when something comes before a text.
* `beginsIn_belowNamed_iff`: where a match of `**/name/**` can begin.
-/

namespace TypeCensus.Glob

/-! ## Reading -/

theorem prefix_addComponents (parts : List Part) : parts.reverse <+: (addComponents parts).reverse := by
  unfold addComponents
  split
  · exact List.prefix_refl _
  · rw [List.reverse_cons]
    exact List.prefix_append _ _

theorem prefix_push (parts : List Part) (p : Part) : parts.reverse <+: (p :: parts).reverse := by
  rw [List.reverse_cons]
  exact List.prefix_append _ _

/-- Reading a pattern on only adds parts. -/
theorem prefix_of_readFrom {fuel position : Nat} {parts out : List Part} {before : Option Char}
    {cs : List Char} (h : readFrom fuel parts before position cs = .ok out) : parts.reverse <+: out := by
  fun_induction readFrom fuel parts before position cs with
  | case1 | case2 => exact Except.ok.inj h ▸ List.prefix_refl _
  | case3 _ parts _ _ _ ih | case4 _ parts _ _ _ _ _ ih | case11 _ parts _ _ _ _ _ _ _ _ ih
  | case13 _ parts _ _ _ _ _ _ _ ih => exact (prefix_push parts _).trans (ih h)
  | case5 _ parts => exact Except.ok.inj h ▸ prefix_addComponents parts
  | case8 _ parts _ _ _ _ _ _ _ _ _ ih => exact (prefix_addComponents parts).trans (ih h)
  | case6 | case7 | case9 | case10 | case12 => cases h

/-- The first part of a pattern that begins with `**/` stands for any components. -/
theorem exists_parts_of_ofString {p : String} {g : Glob} (h : ofString p = .ok g)
    (hleading : p.startsWith "**/" = true) : ∃ ps, g.parts = .anyComponents :: ps := by
  obtain ⟨cs, hcs⟩ := String.startsWith_string_iff.mp hleading
  have hstars : p.toList = '*' :: '*' :: '/' :: cs := by simpa using hcs.symm
  have hlength : p.length = cs.length + 3 := by simp [← String.length_toList, hstars]
  have hread : ofString p = (readFrom (cs.length + 3) [.anyComponents] (some '/') 3 cs).map Glob.mk := by
    rw [ofString, hstars, hlength]
    simp [readFrom, addComponents]
  rw [hread] at h
  cases hparts : readFrom (cs.length + 3) [.anyComponents] (some '/') 3 cs with
  | error e => simp [hparts, Except.map] at h
  | ok parts =>
    rw [hparts] at h
    obtain rfl := Except.ok.inj h
    obtain ⟨ps, rfl⟩ := prefix_of_readFrom hparts
    exact ⟨ps, rfl⟩

/-! ## Matching -/

/-- A component begins after a text: at the very beginning, or after a slash. -/
def Opens (before : List Char) : Prop := before = [] ∨ before.getLast? = some '/'

/-- A match of a pattern begins in what comes before a text, with one of the components there. -/
def BeginsIn (g : Glob) (before text : List Char) : Prop :=
  ∃ above within, before = above ++ within ∧ within ≠ [] ∧ Opens above ∧
    matchParts g.parts.tail (within ++ text) = true

variable {ps : List Part} {cs before text : List Char}

theorem opens_append_iff (hslash : before.getLast? = some '/') : Opens (before ++ text) ↔ Opens text := by
  rw [Opens, Opens, List.getLast?_append, hslash]
  cases text with
  | nil => simp
  | cons c cs => simp [List.getLast?_cons]

theorem matchesAfterSlash_iff {rest : List Char → Bool} :
    matchesAfterSlash rest cs = true ↔
      rest [] = true ∨ ∃ above below, cs = above ++ '/' :: below ∧ rest below = true := by
  induction cs with
  | nil => simp [matchesAfterSlash]
  | cons c cs ih =>
    rw [matchesAfterSlash, Bool.or_eq_true, Bool.and_eq_true, beq_iff_eq, ih]
    constructor
    · rintro (⟨rfl, hrest⟩ | hrest | ⟨above, below, rfl, hrest⟩)
      · exact .inr ⟨[], cs, rfl, hrest⟩
      · exact .inl hrest
      · exact .inr ⟨c :: above, below, rfl, hrest⟩
    · rintro (hrest | ⟨above, below, heq, hrest⟩)
      · exact .inr (.inl hrest)
      · cases above with
        | nil =>
          obtain ⟨rfl, rfl⟩ := List.cons.inj heq
          exact .inl ⟨rfl, hrest⟩
        | cons a above =>
          obtain ⟨rfl, rfl⟩ := List.cons.inj heq
          exact .inr (.inr ⟨above, below, rfl, hrest⟩)

/-- Any components stand for what comes before some component, or for all there is. -/
theorem matchParts_anyComponents_iff :
    matchParts (.anyComponents :: ps) cs = true ↔
      matchParts ps [] = true ∨ ∃ above below, cs = above ++ below ∧ Opens above ∧
        matchParts ps below = true := by
  rw [matchParts, Bool.or_eq_true, matchesAfterSlash_iff]
  constructor
  · rintro (hall | hnone | ⟨above, below, rfl, hrest⟩)
    · exact .inr ⟨[], cs, rfl, .inl rfl, hall⟩
    · exact .inl hnone
    · exact .inr ⟨above ++ ['/'], below, by simp, .inr (by simp), hrest⟩
  · rintro (hnone | ⟨above, below, rfl, rfl | hslash, hrest⟩)
    · exact .inr (.inl hnone)
    · exact .inl hrest
    · obtain ⟨above, rfl⟩ := List.getLast?_eq_some_iff.mp hslash
      exact .inr (.inr ⟨above, below, by simp, hrest⟩)

/-- After a text that ends in a slash, such a pattern matches what it matches anyway, or from a component of that text
on. -/
theorem matchParts_append_iff {g : Glob} (hparts : g.parts = .anyComponents :: ps)
    (hslash : before.getLast? = some '/') :
    matchParts g.parts (before ++ text) = true ↔ matchParts g.parts text = true ∨ BeginsIn g before text := by
  rw [BeginsIn, hparts, matchParts_anyComponents_iff, matchParts_anyComponents_iff, List.tail_cons]
  constructor
  · rintro (hnone | ⟨above, below, heq, hopens, hrest⟩)
    · exact .inl (.inl hnone)
    · obtain ⟨within, rfl, rfl⟩ | ⟨within, rfl, rfl⟩ := List.append_eq_append_iff.mp heq
      · -- the match begins in the text, after some of its components
        exact .inl (.inr ⟨within, below, rfl, (opens_append_iff hslash).mp hopens, hrest⟩)
      · by_cases hwithin : within = []
        · subst hwithin
          exact .inl (.inr ⟨[], text, rfl, .inl rfl, hrest⟩)
        · exact .inr ⟨above, within, rfl, hwithin, hopens, hrest⟩
  · rintro ((hnone | ⟨above, below, rfl, hopens, hrest⟩) | ⟨above, within, rfl, -, hopens, hrest⟩)
    · exact .inl hnone
    · exact .inr ⟨before ++ above, below, by simp, (opens_append_iff hslash).mpr hopens, hrest⟩
    · exact .inr ⟨above, within ++ text, by simp, hopens, hrest⟩

/-! ## Directories of a name -/

/-- The pattern for what is below the directories of a name. -/
def belowNamed (name : String) : Glob where
  parts := .anyComponents :: name.toList.map .char ++ [.char '/', .anyComponents]

theorem readFrom_plain (fuel position : Nat) (parts : List Part) (before : Option Char)
    (rest : List Char) (h : ∀ c ∈ cs, c ≠ '?' ∧ c ≠ '*' ∧ c ≠ '[') :
    readFrom (fuel + cs.length) parts before position (cs ++ rest) =
      readFrom fuel ((cs.map Part.char).reverse ++ parts) (cs.getLast?.or before) (position + cs.length)
        rest := by
  induction cs generalizing parts before position with
  | nil => simp
  | cons c cs ih =>
    obtain ⟨⟨hany, hstar, hset⟩, hrest⟩ := List.forall_mem_cons.mp h
    have hlast : (c :: cs).getLast?.or before = cs.getLast?.or (some c) := by
      cases cs <;> simp [List.getLast?_cons]
    rw [List.length_cons, ← Nat.add_assoc, List.cons_append, readFrom, if_neg hany, if_neg hstar, if_neg hset,
      ih _ _ _ hrest, hlast]
    simp [Nat.add_comm, Nat.add_left_comm]

theorem ofString_belowNamed {name : String} (h : ∀ c ∈ name.toList, c ≠ '?' ∧ c ≠ '*' ∧ c ≠ '[') :
    ofString ("**/" ++ name ++ "/**") = .ok (belowNamed name) := by
  have hlist : ("**/" ++ name ++ "/**").toList =
      '*' :: '*' :: '/' :: (name.toList ++ ['/', '*', '*']) := by simp
  have hlength : ("**/" ++ name ++ "/**").length + 1 = 6 + name.toList.length + 1 := by
    rw [← String.length_toList, hlist]
    simp
    omega
  have hstars (fuel : Nat) (cs : List Char) :
      readFrom (fuel + 1) [] none 0 ('*' :: '*' :: '/' :: cs) =
        readFrom fuel [.anyComponents] (some '/') 3 cs := by simp [readFrom, addComponents]
  have hend (position : Nat) (parts : List Part) (before : Option Char) :
      readFrom 6 parts before position ['/', '*', '*'] =
        .ok (.anyComponents :: .char '/' :: parts).reverse := by
    cases parts <;> simp [readFrom, addComponents]
  rw [ofString, hlist, hlength, hstars, readFrom_plain 6 3 _ _ _ h, hend]
  simp [belowNamed, Except.map]

theorem matchParts_char_iff {c : Char} : matchParts (.char c :: ps) text = true ↔
    ∃ rest, text = c :: rest ∧ matchParts ps rest = true := by
  cases text with
  | nil => simp [matchParts]
  | cons d text =>
    have hstep : matchParts (.char c :: ps) (d :: text) = (d == c && matchParts ps text) := by
      simp [matchParts, Part.accepts]
    simp [hstep, and_assoc]

theorem matchParts_chars_iff : matchParts (cs.map .char ++ ps) text = true ↔
    ∃ rest, text = cs ++ rest ∧ matchParts ps rest = true := by
  induction cs generalizing text with
  | nil => simp
  | cons c cs ih => simp [matchParts_char_iff, ih]

/-- A match of such a pattern begins in a path just if a component of the path has the name. -/
theorem beginsIn_belowNamed_iff {name : String} (hname : '/' ∉ name.toList)
    (hslash : before.getLast? = some '/') :
    (belowNamed name).BeginsIn before text ↔
      ∃ above below, before = above ++ name.toList ++ '/' :: below ∧ Opens above := by
  have hmatch (cs : List Char) : matchParts (belowNamed name).parts.tail cs = true ↔
      ∃ rest, cs = name.toList ++ '/' :: rest := by
    have htail : (belowNamed name).parts.tail =
        name.toList.map .char ++ [.char '/', .anyComponents] := rfl
    have hall (cs : List Char) : matchParts [.anyComponents] cs = true :=
      matchParts_anyComponents_iff.mpr (.inl rfl)
    simp [htail, matchParts_chars_iff, matchParts_char_iff, hall]
  constructor
  · rintro ⟨above, within, rfl, hwithin, hopens, hrest⟩
    obtain ⟨rest, hrest⟩ := (hmatch _).mp hrest
    have hend : '/' ∈ within := by
      rw [List.getLast?_append_of_ne_nil above hwithin] at hslash
      exact List.mem_of_getLast? hslash
    obtain ⟨more, hname', -⟩ | ⟨more, rfl, hmore⟩ := List.append_eq_append_iff.mp hrest
    · exact absurd (hname' ▸ List.mem_append_left more hend) hname
    · cases more with
      | nil => exact absurd (by simpa using hend) hname
      | cons c below =>
        obtain ⟨rfl, -⟩ := List.cons.inj hmore
        exact ⟨above, below, by simp, hopens⟩
  · rintro ⟨above, below, rfl, hopens⟩
    exact ⟨above, name.toList ++ '/' :: below, by simp, by simp, hopens,
      (hmatch _).mpr ⟨below ++ text, by simp⟩⟩

end TypeCensus.Glob
