import TypeCensus.Proofs.Console.Transcript

/-!
# Texts — an input that is written line by line

Texts that are ended by line feeds are read back as they are, unless a text holds a line feed itself or ends in a
carriage return.

* `toNat_of_mem_utf8EncodeChar`: a byte below 128 stands for a character of its own.
* `decode?_bytesOf`: the bytes of a text are decoded to it.
* `script_textOf`: what a session makes of such an input.
-/

namespace TypeCensus.Console

open Sink (bytesOf textOf)

/-! ## The bytes of a text -/

/-- A byte below 128 stands for a character of its own. -/
theorem toNat_of_mem_utf8EncodeChar {b : UInt8} {c : Char} (h : b ∈ String.utf8EncodeChar c)
    (hb : b.toNat < 128) : c.toNat = b.toNat := by
  have hc : c.toNat = c.val.toNat := rfl
  unfold String.utf8EncodeChar at h
  dsimp only at h
  split_ifs at h with h₁ h₂ h₃
  · have hb : b = UInt8.ofNat c.val.toNat := by simpa using h
    rw [hb, hc, UInt8.toNat_ofNat']
    omega
  all_goals
    -- every byte of a longer character has its highest bit set
    simp only [List.mem_cons, List.not_mem_nil, or_false] at h
    exfalso
    rcases h with rfl | rfl | rfl | rfl
    all_goals
      rw [UInt8.toNat_ofNat'] at hb
      omega

theorem bytesOf_eq_flatMap (text : String) :
    bytesOf text = text.toList.flatMap String.utf8EncodeChar := by
  unfold bytesOf String.toUTF8
  rw [← String.utf8Encode_toList, List.utf8Encode, List.toList_data_toByteArray]

theorem decode?_bytesOf (text : String) : decode? (bytesOf text) = some text := by
  have hbytes : (⟨(bytesOf text).toArray⟩ : ByteArray) = text.toByteArray := by
    simp [bytesOf, String.toUTF8]
  rw [decode?, hbytes, String.fromUTF8?, dif_pos text.isValidUTF8]
  rfl

theorem mem_of_mem_bytesOf {text : String} {b : UInt8} (h : b ∈ bytesOf text) (hb : b.toNat < 128) :
    Char.ofNat b.toNat ∈ text.toList := by
  rw [bytesOf_eq_flatMap, List.mem_flatMap] at h
  obtain ⟨c, hc, hmem⟩ := h
  rw [← toNat_of_mem_utf8EncodeChar hmem hb, Char.ofNat_toNat]
  exact hc

theorem getLast?_of_getLast?_bytesOf {text : String} {b : UInt8}
    (h : (bytesOf text).getLast? = some b) (hb : b.toNat < 128) :
    text.toList.getLast? = some (Char.ofNat b.toNat) := by
  rw [bytesOf_eq_flatMap] at h
  generalize text.toList = cs at h ⊢
  cases cs using List.reverseRecOn with
  | nil => simp at h
  | append_singleton cs c =>
    rw [List.flatMap_append, List.flatMap_singleton, List.getLast?_append] at h
    obtain ⟨last, hlast⟩ := Option.ne_none_iff_exists'.mp
      (mt List.getLast?_eq_none_iff.mp (String.utf8EncodeChar_ne_nil (c := c)))
    obtain rfl : last = b := by simpa [hlast] using h
    rw [← toNat_of_mem_utf8EncodeChar (List.mem_of_getLast? hlast) hb]
    simp

/-! ## Lines that are written -/

/-- A text that comes back from a line of its own, and does not end the session. -/
structure Heeded (text : String) : Prop where
  oneLine : '\n' ∉ text.toList
  noReturn : text.toList.getLast? ≠ some '\r'
  goesOn : text ∉ Command.exitWords

theorem lines_append {bs : List UInt8} (h : lineFeed ∉ bs) (rest : List UInt8) :
    lines (bs ++ lineFeed :: rest) = (bs ++ [lineFeed]) :: lines rest := by
  induction bs with
  | nil => simp [lines]
  | cons b bs ih =>
    have hb : b ≠ lineFeed := by
      rintro rfl
      simp at h
    have ih := ih fun hmem => h (by simp [hmem])
    rw [List.cons_append, lines, if_neg hb, ih]
    rfl

theorem script_cons_of_heeded {text : String} (h : Heeded text) (rest : List UInt8) :
    script (lines (bytesOf (text ++ "\n") ++ rest)) =
      { script (lines rest) with texts := text :: (script (lines rest)).texts } := by
  have hfeed : lineFeed ∉ bytesOf text := fun hmem => h.oneLine (mem_of_mem_bytesOf hmem (by decide))
  have hreturn : (bytesOf text).getLast? ≠ some 13 := fun hlast =>
    h.noReturn (getLast?_of_getLast?_bytesOf hlast (by decide))
  have hbytes : bytesOf (text ++ "\n") ++ rest = bytesOf text ++ lineFeed :: rest := by
    rw [Sink.bytesOf_append, List.append_assoc]
    rfl
  rw [hbytes, lines_append hfeed, script, lineFeed, content_append_lf hreturn, decode?_bytesOf]
  simp [h.goesOn]

/-- All texts are performed, and then the input runs dry. -/
theorem script_textOf {texts : List String} (h : ∀ text ∈ texts, Heeded text) :
    script (lines (bytesOf (textOf texts))) = { texts, ending := .dry } := by
  induction texts with
  | nil => rfl
  | cons text texts ih =>
    have ih := ih fun t ht => h t (by simp [ht])
    rw [Sink.textOf_cons, Sink.bytesOf_append, script_cons_of_heeded (h text (by simp)), ih]

end TypeCensus.Console
