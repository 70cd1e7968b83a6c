import TypeCensus.Proofs.Command.RoundTrip
import TypeCensus.Proofs.Text.Blanks
import TypeCensus.Report.Line

/-!
# Decoding — a line of a report, read back

A subject is text of a source and may hold anything, also what separates it from the value.  A value holds no space, so
that the separator before it is the last one in the line.  A count has only digits and a label none.

* `LastCut`, `cutLast_eq_some_iff`: a text is cut at its last separator.
* `lastCut_render`: in a line, that is between the subject and the value.
* `Value.read?_render`: what stands there is read as the value.
* `decode_render`: so the text of a line gives the line back.
-/

namespace TypeCensus.Report

/-! ## The decoder -/

/-- What stands between the subject and the value of a line. -/
def separator : List Char := [' ', ':', ' ']

/-- The two parts of a text around its last separator. -/
def cutLast : List Char → Option (List Char × List Char)
  | [] => none
  | c :: cs =>
    match cutLast cs with
    | some (s, v) => some (c :: s, v)
    | none => if separator.isPrefixOf (c :: cs) then some ([], cs.drop 2) else none

/-- The kind of singleton that a label names. -/
def Singleton.ofLabel? (s : String) : Option Singleton :=
  [publicField, staticFactory, singletonEnum].find? (·.label == s)

/-- The value that a text is of: a label or a decimal number. -/
def Value.read? (s : String) : Option Value :=
  match Singleton.ofLabel? s with
  | some x => some (.label x)
  | none =>
    if s.toList ≠ [] ∧ s.toList.all Char.isDigit then some (.count (Command.numeral s.toList)) else none

/-- The line that a text is of. -/
def Line.decode (text : String) : Option Line :=
  (cutLast text.toList).bind fun (s, v) => (Value.read? (.ofList v)).map fun value => ⟨.ofList s, value⟩

/-! ## The last separator -/

/-- Some text is cut at a separator, and no other one begins after it. -/
structure LastCut (cs s v : List Char) : Prop where
  cut : cs = s ++ separator ++ v
  last : ∀ s' v', cs = s' ++ separator ++ v' → s'.length ≤ s.length

/-- Where nothing is cut, there is no separator. -/
theorem no_separator_of_cutLast {cs : List Char} (h : cutLast cs = none) (s v : List Char) :
    cs ≠ s ++ separator ++ v := by
  induction cs generalizing s with
  | nil => simp [separator]
  | cons c cs ih =>
    rw [cutLast] at h
    cases hrest : cutLast cs with
    | some p => simp [hrest] at h
    | none =>
      rintro heq
      cases s with
      | nil =>
        rw [hrest, heq] at h
        simp [separator] at h
      | cons d s =>
        have htail : cs = s ++ separator ++ v := by simpa using (List.cons.inj heq).2
        exact ih hrest s htail

theorem lastCut_of_cutLast {cs s v : List Char} (h : cutLast cs = some (s, v)) : LastCut cs s v := by
  induction cs generalizing s with
  | nil => cases h
  | cons c cs ih =>
    rw [cutLast] at h
    cases hrest : cutLast cs with
    | some p =>
      obtain ⟨t, w⟩ := p
      rw [hrest] at h
      obtain ⟨rfl, rfl⟩ : c :: t = s ∧ w = v := by simpa using h
      have htail : LastCut cs t w := ih hrest
      refine ⟨by simp [htail.cut], fun s' v' heq => ?_⟩
      cases s' with
      | nil => simp
      | cons d s' =>
        have hle : s'.length ≤ t.length := htail.last s' v' (by simpa using (List.cons.inj heq).2)
        simpa using hle
    | none =>
      rw [hrest] at h
      dsimp only at h
      split_ifs at h with hprefix
      obtain ⟨rest, hrest'⟩ := List.isPrefixOf_iff_prefix.mp hprefix
      obtain ⟨rfl, rfl⟩ : [] = s ∧ cs.drop 2 = v := by simpa using h
      obtain ⟨rfl, rfl⟩ : ' ' = c ∧ ':' :: ' ' :: rest = cs := by simpa [separator] using hrest'
      refine ⟨by simp [separator], fun s' v' heq => ?_⟩
      cases s' with
      | nil => simp
      | cons d s' =>
        exact absurd (by simpa using (List.cons.inj heq).2) (no_separator_of_cutLast hrest s' v')

/-- A text is cut at its last separator, if there is one. -/
theorem cutLast_eq_some_iff {cs s v : List Char} : cutLast cs = some (s, v) ↔ LastCut cs s v := by
  constructor
  · exact lastCut_of_cutLast
  · intro h
    cases hcut : cutLast cs with
    | none => exact absurd h.cut (no_separator_of_cutLast hcut s v)
    | some p =>
      obtain ⟨t, w⟩ := p
      have ht : LastCut cs t w := lastCut_of_cutLast hcut
      have hlength : t.length = s.length := by
        have hle := h.last t w ht.cut
        have hge := ht.last s v h.cut
        omega
      have hparts : t ++ (separator ++ w) = s ++ (separator ++ v) := by
        rw [← List.append_assoc, ← List.append_assoc, ← ht.cut, ← h.cut]
      obtain ⟨rfl, hright⟩ := List.append_inj hparts hlength
      obtain rfl : w = v := List.append_cancel_left hright
      rfl

/-! ## Values -/

theorem not_isBlank_of_mem_render {v : Value} {c : Char} (hc : c ∈ v.render.toList) :
    Text.isBlank c = false := by
  cases v with
  | count n => exact Text.isBlank_of_isDigit ((Command.digits_toString n).2 c hc)
  | label x =>
    have hlabel : (x.label.toList.all fun d => !Text.isBlank d) = true := by cases x <;> decide
    simpa using List.all_eq_true.mp hlabel c hc

theorem space_notMem_render (v : Value) : ' ' ∉ v.render.toList := by
  intro hspace
  have hsolid : Text.isBlank ' ' = false := not_isBlank_of_mem_render hspace
  exact absurd hsolid (by decide)

/-- A label does not begin with a digit. -/
theorem ofLabel?_toString (n : Nat) : Singleton.ofLabel? (toString n) = none := by
  obtain ⟨hne, hdigits⟩ := Command.digits_toString n
  obtain ⟨d, ds, hds⟩ := List.exists_cons_of_ne_nil hne
  have hd : d.isDigit = true := hdigits d (hds ▸ List.mem_cons_self)
  rw [Singleton.ofLabel?, List.find?_eq_none]
  intro x _ hx
  have hlabel : x.label.toList = d :: ds := by
    rw [← hds]
    exact congrArg String.toList (beq_iff_eq.mp hx)
  cases x
  all_goals
    obtain rfl : d = _ := (List.cons.inj hlabel).1.symm
    exact absurd hd (by decide)

theorem ofLabel?_label (x : Singleton) : Singleton.ofLabel? x.label = some x := by
  cases x <;> decide

/-- The text of a value is read as that value. -/
theorem Value.read?_render (v : Value) : Value.read? v.render = some v := by
  cases v with
  | label x => simp only [Value.read?, Value.render, ofLabel?_label]
  | count n =>
    obtain ⟨hne, hdigits⟩ := Command.digits_toString n
    have hall : (toString n).toList.all Char.isDigit = true := List.all_eq_true.mpr hdigits
    simp only [Value.read?, Value.render, ofLabel?_toString, if_pos (And.intro hne hall),
      Command.numeral_toString]

/-! ## Lines -/

/-- Where there is no space, a separator does not begin before the end of another one. -/
theorem length_le_of_space_notMem {s v s' v' : List Char} (hv : ' ' ∉ v)
    (h : s ++ separator ++ v = s' ++ separator ++ v') : s'.length ≤ s.length := by
  by_contra hlt
  rw [List.append_assoc, List.append_assoc, List.append_eq_append_iff] at h
  obtain ⟨t, rfl, htail⟩ | ⟨t, rfl, -⟩ := h
  · -- the other separator ends in a space that stands in `v`
    apply hv
    match t with
    | [] => simp at hlt
    | [a] => simp [separator] at htail
    | [a, b] =>
      obtain ⟨-, -, hrest⟩ : ' ' = a ∧ ':' = b ∧ v = ':' :: ' ' :: v' := by
        simpa [separator] using htail
      simp [hrest]
    | a :: b :: c :: t =>
      obtain ⟨-, -, -, hrest⟩ : ' ' = a ∧ ':' = b ∧ ' ' = c ∧ v = t ++ (separator ++ v') := by
        simpa [separator] using htail
      simp [hrest, separator]
  · simp at hlt

/-- In a line, the last separator stands between the subject and the value. -/
theorem lastCut_render (l : Line) : LastCut l.render.toList l.subject.toList l.value.render.toList := by
  have hsplit : l.render.toList = l.subject.toList ++ separator ++ l.value.render.toList := by
    simp [Line.render, separator]
  refine ⟨hsplit, fun s v heq => ?_⟩
  exact length_le_of_space_notMem (space_notMem_render l.value) (hsplit.symm.trans heq)

/-- The text of a line gives the line back. -/
theorem decode_render (l : Line) : Line.decode l.render = some l := by
  rw [Line.decode, cutLast_eq_some_iff.mpr (lastCut_render l)]
  simp [Value.read?_render]

/-- **A printed line determines the line.**  Whatever its subject holds, the last separator of a line is the one before
its value.  The decoder that cuts there, and reads a label or a decimal number, gives the line back; so two lines with
one text have the same subject and the same value. -/
theorem line_of_text :
    (∀ l : Line, LastCut l.render.toList l.subject.toList l.value.render.toList) ∧
      (∀ cs s v, cutLast cs = some (s, v) ↔ LastCut cs s v) ∧
      (∀ l : Line, Line.decode l.render = some l) ∧
      ∀ a b : Line, a.render = b.render → a.subject = b.subject ∧ a.value = b.value := by
  refine ⟨lastCut_render, fun cs s v => cutLast_eq_some_iff, decode_render, fun a b h => ?_⟩
  have hsame : some a = some b := by rw [← decode_render a, ← decode_render b, h]
  obtain rfl := Option.some.inj hsame
  exact ⟨rfl, rfl⟩

/-- A subject with separators, with a number and with a label in it. -/
def sampleLine : Line := ⟨"A.A(@N(\" : 7 : publicField\") int)", .count 18446744073709551615⟩

theorem line_of_text_sampleLine :
    sampleLine.render = "A.A(@N(\" : 7 : publicField\") int) : 18446744073709551615" ∧
      Line.decode "A.A(@N(\" : 7 : publicField\") int) : 18446744073709551615" = some sampleLine ∧
      ∀ n, (⟨sampleLine.subject, .count n⟩ : Line).render = sampleLine.render →
        Value.count n = sampleLine.value := by
  have hrender : sampleLine.render = "A.A(@N(\" : 7 : publicField\") int) : 18446744073709551615" := by
    decide +kernel
  refine ⟨hrender, ?_, fun n h => (line_of_text.2.2.2 _ _ h).2⟩
  rw [← hrender]
  exact line_of_text.2.2.1 sampleLine

end TypeCensus.Report
