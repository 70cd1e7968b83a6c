import TypeCensus.Console
import Mathlib.Data.List.Induction

/-!
# Lines — the input of a session, line by line

`lines` cuts some input after every line feed, and `content` drops the end of a line.  Both are read off the bytes from
the front, where `cut` and `strip` find one line and look at it from behind.

* `lines_eq_cut_cons`: the first line is what `cut` finds.
* `strip_eq_content`: `strip` drops the end of a line and nothing else.
* `isSome_decode?_content`: a line is valid text just when its content is.
-/

namespace TypeCensus.Console

/-! ## Cutting -/

/-- The lines of some input, each with its line feed. A rest without one is a line too, unless it is empty. -/
def lines : List UInt8 → List (List UInt8)
  | [] => []
  | b :: bs =>
    if b = lineFeed then [b] :: lines bs
    else
      match lines bs with
      | [] => [[b]]
      | l :: ls => (b :: l) :: ls

theorem lines_eq_cut_cons (b : UInt8) (bs : List UInt8) :
    lines (b :: bs) = (cut (b :: bs)).1 :: lines (cut (b :: bs)).2 := by
  induction bs generalizing b with
  | nil => by_cases hb : b = lineFeed <;> simp [lines, cut, hb]
  | cons c bs ih =>
    by_cases hb : b = lineFeed
    · simp [lines, cut, hb]
    · have hlines : lines (b :: c :: bs) =
          (b :: (cut (c :: bs)).1) :: lines (cut (c :: bs)).2 := by
        rw [lines, if_neg hb, ih c]
      have hcut : cut (b :: c :: bs) = (b :: (cut (c :: bs)).1, (cut (c :: bs)).2) := by
        rw [cut, if_neg hb]
      rw [hlines, hcut]

/-- No byte is lost in cutting. -/
theorem flatten_lines (bs : List UInt8) : (lines bs).flatten = bs := by
  induction bs with
  | nil => rfl
  | cons b bs ih =>
    by_cases hb : b = lineFeed
    · simp [lines, hb, ih]
    · cases hls : lines bs with
      | nil =>
        have hbs : bs = [] := by simpa [hls] using ih.symm
        simp [lines, hb, hbs]
      | cons l ls =>
        have hbs : l ++ ls.flatten = bs := by simpa [hls] using ih
        simp [lines, hb, hls, hbs]

/-! ## Dropping the end of a line -/

/-- A line without a line feed at its end and a carriage return right before that. -/
def content : List UInt8 → List UInt8
  | [] => []
  | [10] => []
  | [13, 10] => []
  | b :: bs => b :: content bs

/-- A byte that does not begin the end of the line stays. -/
theorem content_cons {b : UInt8} {bs : List UInt8} (hlf : b = 10 → bs ≠ []) (hcrlf : b = 13 → bs ≠ [10]) :
    content (b :: bs) = b :: content bs := by
  rw [content]
  · exact hlf
  · exact hcrlf

theorem content_append_crlf (l : List UInt8) : content (l ++ [13, 10]) = l := by
  induction l with
  | nil => rfl
  | cons b l ih =>
    have hcrlf : l ++ [13, 10] ≠ [10] := fun h => by simpa using congrArg List.length h
    rw [List.cons_append, content_cons (by simp) fun _ => hcrlf, ih]

theorem content_append_lf {l : List UInt8} (h : l.getLast? ≠ some 13) :
    content (l ++ [10]) = l := by
  induction l with
  | nil => rfl
  | cons b l ih =>
    have hl : l.getLast? ≠ some 13 := by
      intro hl
      simp [List.getLast?_cons, hl] at h
    have hcrlf (hb : b = 13) : l ++ [10] ≠ [10] := by
      intro heq
      have : l = [] := by simpa using heq
      simp [this, hb] at h
    rw [List.cons_append, content_cons (by simp) hcrlf, ih hl]

theorem content_of_getLast?_ne {l : List UInt8} (h : l.getLast? ≠ some 10) : content l = l := by
  induction l with
  | nil => rfl
  | cons b l ih =>
    have hl : l.getLast? ≠ some 10 := by
      intro hl
      simp [List.getLast?_cons, hl] at h
    rw [content_cons, ih hl]
    · rintro rfl rfl
      simp at h
    · rintro rfl rfl
      simp at h

theorem strip_append_crlf (l : List UInt8) : strip (l ++ [13, 10]) = l := by simp [strip]

theorem strip_append_lf {l : List UInt8} (h : l.getLast? ≠ some 13) : strip (l ++ [10]) = l := by
  cases l using List.reverseRecOn with
  | nil => rfl
  | append_singleton l b =>
    have hb : b ≠ 13 := by simpa using h
    simp only [strip, List.reverse_append, List.reverse_cons, List.reverse_nil, List.nil_append,
      List.cons_append]
    split
    · simp_all
    · simp_all
    · simp_all

theorem strip_of_getLast?_ne {l : List UInt8} (h : l.getLast? ≠ some 10) : strip l = l := by
  unfold strip
  rw [List.getLast?_eq_head?_reverse] at h
  split
  · next hr => simp [hr] at h
  · next hr => simp [hr] at h
  · rfl

/-- How a line ends. -/
theorem line_end_cases (l : List UInt8) :
    (∃ k, l = k ++ [13, 10]) ∨ (∃ k, k.getLast? ≠ some 13 ∧ l = k ++ [10]) ∨
      l.getLast? ≠ some 10 := by
  by_cases h : l.getLast? = some 10
  · obtain ⟨k, rfl⟩ := List.getLast?_eq_some_iff.mp h
    by_cases hk : k.getLast? = some 13
    · obtain ⟨j, rfl⟩ := List.getLast?_eq_some_iff.mp hk
      exact .inl ⟨j, by simp⟩
    · exact .inr (.inl ⟨k, hk, rfl⟩)
  · exact .inr (.inr h)

theorem strip_eq_content (l : List UInt8) : strip l = content l := by
  obtain ⟨k, rfl⟩ | ⟨k, hk, rfl⟩ | h := line_end_cases l
  · rw [strip_append_crlf, content_append_crlf]
  · rw [strip_append_lf hk, content_append_lf hk]
  · rw [strip_of_getLast?_ne h, content_of_getLast?_ne h]

/-! ## Valid text -/

/-- A byte that is a character of its own belongs to no character before it. -/
theorem isValidUTF8_append_iff {k : List UInt8} {b : UInt8} (hfirst : b.IsUTF8FirstByte)
    (hvalid : [b].toByteArray.IsValidUTF8) :
    (k ++ [b]).toByteArray.IsValidUTF8 ↔ k.toByteArray.IsValidUTF8 := by
  constructor
  · rintro ⟨cs, hcs⟩
    rw [List.utf8Encode, List.toByteArray_inj] at hcs
    cases cs using List.reverseRecOn with
    | nil => simp at hcs
    | append_singleton cs c =>
      obtain ⟨e, x, he⟩ : ∃ e x, String.utf8EncodeChar c = e ++ [x] :=
        ⟨_, _, (List.dropLast_concat_getLast String.utf8EncodeChar_ne_nil).symm⟩
      rw [List.flatMap_append, List.flatMap_singleton, he, ← List.append_assoc] at hcs
      obtain ⟨hk, hx⟩ := List.append_inj' hcs rfl
      -- the last byte of `c` begins a character, so it is the only one
      have hlt : e.length < (String.utf8EncodeChar c).length := by simp [he]
      have hlast : (String.utf8EncodeChar c)[e.length] = b := by
        simpa [he] using hx.symm
      have hlen : e.length = 0 :=
        UInt8.isUTF8FirstByte_getElem_utf8EncodeChar.mp (hlast.symm ▸ hfirst)
      refine ⟨cs, ?_⟩
      rw [hk, List.length_eq_zero_iff.mp hlen, List.append_nil, List.utf8Encode]
  · intro hk
    rw [List.toByteArray_append]
    exact hk.append hvalid

theorem isSome_decode?_iff {l : List UInt8} :
    (decode? l).isSome = true ↔ l.toByteArray.IsValidUTF8 := by
  have hbytes : (⟨l.toArray⟩ : ByteArray) = l.toByteArray := by simp [ByteArray.ext_iff]
  unfold decode? String.fromUTF8?
  rw [hbytes]
  split <;> simp_all

theorem isSome_decode?_append {k : List UInt8} {b : UInt8} (hb : b = 10 ∨ b = 13) :
    (decode? (k ++ [b])).isSome = (decode? k).isSome := by
  rw [Bool.eq_iff_iff, isSome_decode?_iff, isSome_decode?_iff]
  obtain rfl | rfl := hb
  · exact isValidUTF8_append_iff (by decide) ⟨['\n'], rfl⟩
  · exact isValidUTF8_append_iff (by decide) ⟨['\r'], rfl⟩

/-- A line is valid text just when its content is. -/
theorem isSome_decode?_content (l : List UInt8) :
    (decode? (content l)).isSome = (decode? l).isSome := by
  obtain ⟨k, rfl⟩ | ⟨k, hk, rfl⟩ | h := line_end_cases l
  · have hsplit : k ++ [13, 10] = k ++ [13] ++ [10] := by simp
    rw [content_append_crlf, hsplit, isSome_decode?_append (.inl rfl),
      isSome_decode?_append (.inr rfl)]
  · rw [content_append_lf hk, isSome_decode?_append (.inl rfl)]
  · rw [content_of_getLast?_ne h]

end TypeCensus.Console
