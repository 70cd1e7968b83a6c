import TypeCensus.Text.Blank
import Mathlib.Data.List.DropRight

/-!
# Blanks — what stands around words

A text is read for its words, and only the blanks between them tell where one ends.  How many blanks stand there, and
which ones, is lost.

* `trimEnd_append`: the blanks at the end of a text are dropped, and nothing else.
* `wordsOf_iff`: the words of a text are what is left of it between its blanks.
* `plainOf_plain`, `PlainOf.flat`: a plain text is those words with single spaces between them, and has no other blanks.
* `plain_respaced`: it stays the same when blanks are exchanged for other blanks.
-/

namespace TypeCensus.Text

/-- Only the blanks at the end of a text are dropped. -/
theorem trimEnd_append {kept blanks : List Char} (hblanks : ∀ c ∈ blanks, isBlank c = true)
    (hkept : ∀ c ∈ kept.getLast?, isBlank c = false) : trimEnd (kept ++ blanks) = kept := by
  have hreverse : ∀ c ∈ blanks.reverse, isBlank c = true := by simpa using hblanks
  rw [trimEnd, List.reverse_append, List.dropWhile_append_of_pos hreverse]
  cases kept using List.reverseRecOn with
  | nil => rfl
  | append_singleton kept c =>
    have hc : ¬ isBlank c = true := by simp [hkept c (by simp)]
    rw [List.reverse_append, List.reverse_singleton, List.singleton_append, List.dropWhile_cons_of_neg hc]
    simp

/-- Every text is some text that does not end in a blank, followed by blanks. -/
theorem exists_eq_append_blanks (cs : List Char) :
    ∃ kept blanks, cs = kept ++ blanks ∧ (∀ c ∈ blanks, isBlank c = true) ∧
      ∀ c ∈ kept.getLast?, isBlank c = false := by
  refine ⟨cs.rdropWhile isBlank, cs.rtakeWhile isBlank, ?_, fun c hc => List.mem_rtakeWhile_imp hc, ?_⟩
  · exact (List.rdropWhile_append_rtakeWhile ..).symm
  · intro c hc
    obtain ⟨hne, rfl⟩ := List.mem_getLast?_eq_getLast hc
    simpa using List.rdropWhile_last_not isBlank cs hne

/-! ## Words -/

/-- A word: some characters, none of them a blank. -/
structure IsWord (w : List Char) : Prop where
  ne_nil : w ≠ []
  solid : ∀ c ∈ w, isBlank c = false

/-- The words of a text, from left to right.  A word ends at a blank or where the text ends. -/
inductive WordsOf : List Char → List (List Char) → Prop
  | none {blanks : List Char} (hblanks : ∀ c ∈ blanks, isBlank c = true) : WordsOf blanks []
  | word {blanks w rest : List Char} {ws : List (List Char)} (hblanks : ∀ c ∈ blanks, isBlank c = true)
      (hw : IsWord w) (hend : ∀ c ∈ rest.head?, isBlank c = true) (hrest : WordsOf rest ws) :
      WordsOf (blanks ++ w ++ rest) (w :: ws)

theorem words_append_of_blanks {blanks : List Char} (h : ∀ c ∈ blanks, isBlank c = true) (cs : List Char) :
    words (blanks ++ cs) = words cs := by
  induction blanks with
  | nil => rfl
  | cons b bs ih =>
    rw [List.cons_append, words, if_pos (h b (by simp)), ih fun c hc => h c (by simp [hc])]

theorem words_cons_of_solid {c : Char} (h : isBlank c = false) (cs : List Char) :
    words (c :: cs) =
      (c :: cs.takeWhile fun d => !isBlank d) :: words (cs.dropWhile fun d => !isBlank d) := by
  rw [words, if_neg (by simp [h])]

theorem words_append_of_isWord {w rest : List Char} (hw : IsWord w)
    (hend : ∀ c ∈ rest.head?, isBlank c = true) : words (w ++ rest) = w :: words rest := by
  obtain ⟨hne, hsolid⟩ := hw
  cases w with
  | nil => exact absurd rfl hne
  | cons c w =>
    have hw : ∀ d ∈ w, (!isBlank d) = true := fun d hd => by simp [hsolid d (by simp [hd])]
    have hstop : rest.takeWhile (fun d => !isBlank d) = [] ∧
        rest.dropWhile (fun d => !isBlank d) = rest := by
      cases rest with
      | nil => exact ⟨rfl, rfl⟩
      | cons d rest => simp [hend d rfl]
    rw [List.cons_append, words_cons_of_solid (hsolid c (by simp)), List.takeWhile_append_of_pos hw,
      List.dropWhile_append_of_pos hw, hstop.1, hstop.2, List.append_nil]

theorem WordsOf.cons_of_blank {c : Char} {cs : List Char} {ws : List (List Char)} (hc : isBlank c = true)
    (h : WordsOf cs ws) : WordsOf (c :: cs) ws := by
  cases h with
  | none hblanks => exact .none (by simpa [hc] using hblanks)
  | @word blanks w rest ws hblanks hw hend hrest =>
    have hblanks : ∀ d ∈ c :: blanks, isBlank d = true := by simpa [hc] using hblanks
    exact .word hblanks hw hend hrest

theorem wordsOf_words (cs : List Char) : WordsOf cs (words cs) := by
  induction cs using words.induct with
  | case1 =>
    rw [words]
    exact .none (by simp)
  | case2 c rest hc ih =>
    rw [words, if_pos hc]
    exact ih.cons_of_blank hc
  | case3 c rest hc ih =>
    have hsolid : isBlank c = false := by simpa using hc
    rw [words_cons_of_solid hsolid]
    have hword : IsWord (c :: rest.takeWhile fun d => !isBlank d) := by
      refine ⟨by simp, fun d hd => ?_⟩
      obtain rfl | hd := List.mem_cons.mp hd
      · exact hsolid
      · simpa using List.mem_takeWhile_imp hd
    have hend : ∀ d ∈ (rest.dropWhile fun d => !isBlank d).head?, isBlank d = true := by
      intro d hd
      have hstop := List.head?_dropWhile_not (fun d => !isBlank d) rest
      rw [Option.mem_def.mp hd] at hstop
      simpa using hstop
    have hsplit : c :: rest = [] ++ (c :: rest.takeWhile fun d => !isBlank d) ++
        rest.dropWhile fun d => !isBlank d := by simp
    conv => arg 1; rw [hsplit]
    exact .word (by simp) hword hend ih

/-- The words of a text are what is left of it between its blanks. -/
theorem wordsOf_iff {cs : List Char} {ws : List (List Char)} : WordsOf cs ws ↔ words cs = ws := by
  constructor
  · intro h
    induction h with
    | @none blanks hblanks =>
      have hwords : words (blanks ++ []) = words [] := words_append_of_blanks hblanks []
      rw [List.append_nil] at hwords
      rw [hwords, words]
    | @word blanks w rest ws hblanks hw hend _ ih =>
      rw [List.append_assoc, words_append_of_blanks hblanks, words_append_of_isWord hw hend, ih]
  · rintro rfl
    exact wordsOf_words cs

/-! ## Plain texts -/

/-- A text that has no other blanks than spaces. -/
def Flat (s : String) : Prop := ∀ c ∈ s.toList, isBlank c = true → c = ' '

/-- A text is the words of another one with single spaces between them. -/
def PlainOf (text s : String) : Prop := ∃ ws, WordsOf text.toList ws ∧ s.toList = [' '].intercalate ws

theorem plainOf_plain (text : String) : PlainOf text (plain text) :=
  ⟨_, wordsOf_iff.mpr rfl, by rw [plain, String.toList_ofList]⟩

theorem WordsOf.isWord {cs : List Char} {ws : List (List Char)} (h : WordsOf cs ws) : ∀ w ∈ ws, IsWord w := by
  induction h with
  | none => simp
  | word _ hw _ _ ih => simpa [hw] using ih

theorem of_mem_intercalate {α : Type} {sep : List α} {xss : List (List α)} {a : α}
    (h : a ∈ sep.intercalate xss) : a ∈ sep ∨ ∃ xs ∈ xss, a ∈ xs := by
  induction xss with
  | nil => simp at h
  | cons x xss ih =>
    by_cases hnil : xss = []
    · rw [hnil, List.intercalate_singleton] at h
      exact .inr ⟨x, by simp, h⟩
    · rw [List.intercalate_cons_of_ne_nil hnil, List.mem_append, List.mem_append] at h
      obtain (hx | hsep) | hrest := h
      · exact .inr ⟨x, by simp, hx⟩
      · exact .inl hsep
      · exact (ih hrest).imp id fun ⟨xs, hxs, ha⟩ => ⟨xs, by simp [hxs], ha⟩

theorem notMem_intercalate {c : Char} {sep : String} {xs : List String} (hsep : c ∉ sep.toList)
    (hxs : ∀ x ∈ xs, c ∉ x.toList) : c ∉ (sep.intercalate xs).toList := by
  rw [String.toList_intercalate]
  intro hc
  obtain hc | ⟨cs, hcs, hc⟩ := of_mem_intercalate hc
  · exact hsep hc
  · obtain ⟨x, hx, rfl⟩ := List.mem_map.mp hcs
    exact hxs x hx hc

theorem PlainOf.flat {text s : String} (h : PlainOf text s) : Flat s := by
  obtain ⟨ws, hws, hs⟩ := h
  intro c hc hblank
  rw [hs] at hc
  obtain hspace | ⟨w, hw, hcw⟩ := of_mem_intercalate hc
  · simpa using hspace
  · have hsolid : isBlank c = false := (hws.isWord w hw).solid c hcw
    simp [hsolid] at hblank

theorem Flat.append {s t : String} (hs : Flat s) (ht : Flat t) : Flat (s ++ t) := by
  intro c hc
  rw [String.toList_append, List.mem_append] at hc
  exact hc.elim (hs c) (ht c)

/-- A blank that is no space is not in a flat text. -/
theorem Flat.notMem {s : String} (h : Flat s) {b : Char} (hblank : isBlank b = true) (hb : b ≠ ' ') :
    b ∉ s.toList :=
  fun hmem => hb (h b hmem hblank)

/-- A fixed text is seen to be flat by looking at each of its characters. -/
theorem flat_of_all {s : String} (h : (s.toList.all fun c => !isBlank c || c == ' ') = true) : Flat s := by
  intro c hc hblank
  simpa [hblank] using List.all_eq_true.mp h c hc

theorem isBlank_of_isDigit {c : Char} (h : c.isDigit = true) : isBlank c = false := by
  have hrange : 48 ≤ c.toNat ∧ c.toNat ≤ 57 := by simpa [Char.isDigit, UInt32.le_iff_toNat_le] using h
  simp only [isBlank, blankRanges, List.any_eq_false, List.mem_cons, List.not_mem_nil, or_false]
  rintro r hr
  simp only [Bool.and_eq_true, decide_eq_true_eq]
  rcases hr with rfl | rfl | rfl | rfl | rfl | rfl | rfl | rfl | rfl | rfl <;> dsimp only <;> omega

/-! ## Other blanks -/

/-- Blanks are exchanged for other blanks, but none are put in where there was none, and none are left out. -/
inductive Respaced : List Char → List Char → Prop
  | nil : Respaced [] []
  | solid {c : Char} {cs cs' : List Char} (hc : isBlank c = false) (hrest : Respaced cs cs') :
      Respaced (c :: cs) (c :: cs')
  | blanks {bs bs' cs cs' : List Char} (hne : bs ≠ []) (hne' : bs' ≠ []) (hbs : ∀ c ∈ bs, isBlank c = true)
      (hbs' : ∀ c ∈ bs', isBlank c = true) (hrest : Respaced cs cs') : Respaced (bs ++ cs) (bs' ++ cs')

theorem Respaced.append_left {ds ds' : List Char} (cs : List Char) (h : Respaced ds ds') :
    Respaced (cs ++ ds) (cs ++ ds') := by
  induction cs with
  | nil => exact h
  | cons c cs ih =>
    cases hc : isBlank c with
    | false => exact .solid hc ih
    | true =>
      have hblank : ∀ d ∈ [c], isBlank d = true := by simp [hc]
      have hrun : Respaced ([c] ++ (cs ++ ds)) ([c] ++ (cs ++ ds')) :=
        .blanks (by simp) (by simp) hblank hblank ih
      exact hrun

theorem Respaced.refl (cs : List Char) : Respaced cs cs := by
  simpa using Respaced.append_left cs .nil

/-- What is read up to the next blank stays the same, and so do the words after it. -/
theorem Respaced.words_dropWhile {cs cs' : List Char} (h : Respaced cs cs') :
    (cs'.takeWhile fun d => !isBlank d) = (cs.takeWhile fun d => !isBlank d) ∧
      words (cs'.dropWhile fun d => !isBlank d) = words (cs.dropWhile fun d => !isBlank d) ∧
      words cs' = words cs := by
  induction h with
  | nil => exact ⟨rfl, rfl, rfl⟩
  | @solid c cs cs' hc _ ih =>
    obtain ⟨htake, hdrop, -⟩ := ih
    refine ⟨by simp [hc, htake], by simp [hc, hdrop], ?_⟩
    rw [words_cons_of_solid hc, words_cons_of_solid hc, htake, hdrop]
  | @blanks bs bs' cs cs' hne hne' hbs hbs' _ ih =>
    have hwords : words (bs' ++ cs') = words (bs ++ cs) := by
      rw [words_append_of_blanks hbs, words_append_of_blanks hbs', ih.2.2]
    obtain ⟨b, bs, rfl⟩ := List.exists_cons_of_ne_nil hne
    obtain ⟨b', bs', rfl⟩ := List.exists_cons_of_ne_nil hne'
    have hb : isBlank b = true := hbs b (by simp)
    have hb' : isBlank b' = true := hbs' b' (by simp)
    refine ⟨by simp [hb, hb'], ?_, hwords⟩
    rw [List.cons_append, List.cons_append, List.dropWhile_cons_of_neg (by simp [hb']),
      List.dropWhile_cons_of_neg (by simp [hb])]
    exact hwords

/-- Which blanks stand between the words of a text, and how many, makes no difference to its plain form. -/
theorem plain_respaced {s s' : String} (h : Respaced s.toList s'.toList) : plain s' = plain s := by
  rw [plain, plain, h.words_dropWhile.2.2]

end TypeCensus.Text
