import TypeCensus.Proofs.Command.Grammar

/-!
# RoundTrip — the text of a command, read again

A command is written in the form that the grammar has for it, with single spaces and without leading zeros.  Reading
gives the same command back, unless its path holds a quote: then the text ends for the reader at that quote, and is
refused for what follows.

* `denotes_render`: the text of a command denotes it.
* `read_render_quoted`: where the text of a path with a quote is refused.
* `expressible_of_read`: what can be read can be written.
* `read_render`: reading undoes writing, or refuses.
-/

namespace TypeCensus.Command

/-- The grammar has a line for a command: its path, if there is one, holds no quote. -/
def Expressible (c : Command) : Prop := ∀ path, c = .load path → '"' ∉ path.toList

/-! ## Numbers -/

theorem decimalValue_eq_ofDigitChars (ds : List Char) : decimalValue ds = Nat.ofDigitChars 10 ds 0 := rfl

theorem digits_toString (n : Nat) : Digits (toString n).toList := by
  rw [Nat.toString_eq_repr, Nat.toList_repr]
  exact ⟨Nat.toDigits_ne_nil, fun c hc => Nat.isDigit_of_mem_toDigits (by decide) (by decide) hc⟩

/-- The digits of a number name it. -/
theorem numeral_toString (n : Nat) : numeral (toString n).toList = n := by
  rw [← decimalValue_eq_numeral, decimalValue_eq_ofDigitChars, Nat.toString_eq_repr, Nat.toList_repr]
  exact Nat.ofDigitChars_toDigits (by decide) (by decide)

/-! ## Texts of commands -/

theorem gap_space : Gap " ".toList := ⟨by simp, by simp⟩

theorem denotes_render_load {path : String} (hpath : '"' ∉ path.toList) :
    Denotes (render (.load path)) (.load path) := by
  have hline : render (.load path) = "load" ++ " " ++ "\"" ++ path ++ "\"" := rfl
  rw [hline]
  exact .load gap_space hpath

theorem denotes_render_manyConstructors (t : Report.Threshold) :
    Denotes (render (.manyConstructors t)) (.manyConstructors t) := by
  have hline : render (.manyConstructors t) = "mc" ++ " " ++ "th" ++ " " ++ toString t.toNat := rfl
  have hnum : numeral (toString t.toNat).toList = t.toNat := numeral_toString t.toNat
  have hlt : numeral (toString t.toNat).toList < 2 ^ 64 := by
    rw [hnum]
    exact t.toNat_lt
  have h := Denotes.manyConstructors (.inl rfl) gap_space gap_space (digits_toString t.toNat) hlt
  rwa [hnum, UInt64.ofNat_toNat, ← hline] at h

/-- The text of a command denotes it. -/
theorem denotes_render {c : Command} (h : Expressible c) : Denotes c.render c := by
  cases c with
  | help => exact .help (.inl rfl)
  | exit => exact .exit (.inl rfl)
  | list => exact .list
  | load path => exact denotes_render_load (h path rfl)
  | manyConstructors t => exact denotes_render_manyConstructors t

/-! ## Paths with quotes -/

theorem exists_split_at_quote {path : String} (h : '"' ∈ path.toList) :
    ∃ p q : String, path = p ++ "\"" ++ q ∧ '"' ∉ p.toList := by
  obtain ⟨p, q, hsplit, hp⟩ := List.eq_append_cons_of_mem h
  refine ⟨.ofList p, .ofList q, ?_, by simpa using hp⟩
  apply String.toList_inj.mp
  simp [hsplit]

/-- The text of a path with a quote is refused for what follows the first one. -/
theorem read_render_quoted {p : String} (hp : '"' ∉ p.toList) (q : String) :
    read (render (.load (p ++ "\"" ++ q))) =
      .error
        { line := render (.load (p ++ "\"" ++ q)), cause := .trailingInput (q ++ "\"")
          offset := byteLength ("load \"" ++ p ++ "\"").toList } := by
  have hline : render (.load (p ++ "\"" ++ q)) = "load" ++ " " ++ "\"" ++ p ++ "\"" ++ (q ++ "\"") := by
    apply String.toList_inj.mp
    simp [render]
  have hrest : (q ++ "\"").toList ≠ [] := by simp
  have hread : readChars (render (.load (p ++ "\"" ++ q))).toList =
      .error (.trailingInput (q ++ "\""), (q ++ "\"").toList) := by
    rw [hline, readChars_quoted gap_space hp, finished_of_ne_nil _ hrest, String.ofList_toList]
  have hlength : byteLength (render (.load (p ++ "\"" ++ q))).toList =
      byteLength ("load \"" ++ p ++ "\"").toList + byteLength (q ++ "\"").toList := by
    rw [← byteLength_append, hline]
    congr 1
    simp
  rw [read, hread]
  simp only [hlength, Nat.add_sub_cancel]

/-! ## Reading and writing -/

/-- What can be read can be written. -/
theorem expressible_of_read {line : String} {c : Command} (h : read line = .ok c) : Expressible c := by
  have hdenotes : Denotes line c := read_eq_ok_iff.mp h
  rintro path rfl
  cases hdenotes with
  | load _ hpath => exact hpath

/-- **Reading undoes writing.**  The text of a command is read as that command, if the command has no path with a quote
in it; otherwise it is refused.  All that can be read is of the first kind. -/
theorem read_render (c : Command) :
    (Expressible c → read c.render = .ok c) ∧
      (¬ Expressible c → ∃ r, read c.render = .error r) ∧
      ∀ line, read line = .ok c → read c.render = .ok c := by
  have hread (h : Expressible c) : read c.render = .ok c := read_eq_ok_iff.mpr (denotes_render h)
  refine ⟨hread, fun h => ?_, fun line hline => hread (expressible_of_read hline)⟩
  simp only [Expressible, not_forall, not_not] at h
  obtain ⟨path, rfl, hquote⟩ := h
  obtain ⟨p, q, rfl, hp⟩ := exists_split_at_quote hquote
  exact ⟨_, read_render_quoted hp q⟩

/-- A path with spaces and with text outside ASCII, one with a quote, and a line with a tab and leading zeros. -/
theorem read_render_samples :
    Expressible (.load "src/Ä b") ∧ read (render (.load "src/Ä b")) = .ok (.load "src/Ä b") ∧
      ¬ Expressible (.load "a\"b") ∧ (∃ r, read (render (.load "a\"b")) = .error r) ∧
      read "many-constructors\tth  007" = .ok (.manyConstructors 7) ∧
      read (render (.manyConstructors 7)) = .ok (.manyConstructors 7) := by
  have hpath : Expressible (.load "src/Ä b") := by
    rintro path ⟨⟩
    decide
  have hquote : ¬ Expressible (.load "a\"b") := by
    intro h
    exact h _ rfl (by decide)
  have hline : read "many-constructors\tth  007" = .ok (.manyConstructors 7) := by decide +kernel
  exact ⟨hpath, (read_render _).1 hpath, hquote, (read_render _).2.1 hquote, hline,
    (read_render _).2.2 _ hline⟩

end TypeCensus.Command
