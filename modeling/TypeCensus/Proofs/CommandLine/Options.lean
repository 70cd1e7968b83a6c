import TypeCensus.CommandLine.Mode
import TypeCensus.Proofs.Command.Grammar

/-!
# Options — a command line of options and values

Options whose values stand as arguments of their own are read one after the other; each is set when the next one begins.

* `readThreshold_of_digits`: digits are read as the number that they name, unless it is too large.
* `readFrom_option`: an option and its value.
* `read_request`: a directory, a query and a threshold, one after the other.
* `Mode.ofArguments_request`: what they ask for.
-/

namespace TypeCensus

open Command (Digits digitValue numeral)
open Report (Threshold)

namespace Arguments

/-! ## Thresholds -/

theorem le_foldl_digitValue (ds : List Char) (n : Nat) :
    n ≤ ds.foldl (fun n c => 10 * n + digitValue c) n := by
  induction ds generalizing n with
  | nil => exact Nat.le_refl n
  | cons c ds ih =>
    have hstep : n ≤ 10 * n + digitValue c := by omega
    exact hstep.trans (ih _)

/-- A number that is too large after some digits stays too large. -/
theorem readDigits_eq {ds : List Char} (hds : ∀ c ∈ ds, c.isDigit) {n : Nat} (hn : n < UInt64.size) :
    readDigits n ds =
      let value := ds.foldl (fun n c => 10 * n + digitValue c) n
      if value < UInt64.size then .ok (.ofNat value) else .error .tooLarge := by
  induction ds generalizing n with
  | nil => simp [readDigits, hn]
  | cons c ds ih =>
    have hc : c.isDigit = true := hds c (by simp)
    have hrest : ∀ d ∈ ds, d.isDigit := fun d hd => hds d (by simp [hd])
    rw [readDigits, hc]
    by_cases hsize : 10 * n + digitValue c < UInt64.size
    · have ih := ih hrest hsize
      exact (if_pos hsize).trans ih
    · have hle := le_foldl_digitValue ds (10 * n + digitValue c)
      have hlarge : ¬ ds.foldl (fun n c => 10 * n + digitValue c) (10 * n + digitValue c) <
          UInt64.size := by omega
      simp only [List.foldl_cons, hlarge, if_false]
      exact if_neg hsize

theorem readThreshold_of_digits {s : String} (hs : Digits s.toList) :
    readThreshold s =
      if numeral s.toList < 2 ^ 64 then .ok (.ofNat (numeral s.toList)) else .error .tooLarge := by
  have hsign : '+' ∉ s.toList := fun h => absurd (hs.2 '+' h) (by decide)
  have hread : readThreshold s = readDigits 0 s.toList := by
    unfold readThreshold
    split
    · next h => exact absurd h hs.1
    · next h => simp [h] at hsign
    · next h => simp [h] at hsign
    · rfl
  rw [hread, readDigits_eq hs.2 (by decide), ← Command.decimalValue_eq_numeral]
  rfl

/-! ## Options and values -/

/-- An argument that does not begin with a dash. -/
def Plain (arg : String) : Prop := arg.toList.head? ≠ some '-'

instance (arg : String) : Decidable (Plain arg) :=
  inferInstanceAs (Decidable (arg.toList.head? ≠ some '-'))

theorem shapeOf_of_plain {arg : String} (h : Plain arg) : shapeOf arg = .word := by
  unfold shapeOf
  split
  · next heq => simp [Plain, heq] at h
  · next heq => simp [Plain, heq] at h
  · next heq => simp [Plain, heq] at h
  · rfl

theorem plain_of_digits {s : String} (hs : Digits s.toList) : Plain s := by
  intro h
  have hdash := hs.2 '-' (List.mem_of_mem_head? h)
  exact absurd hdash (by decide)

/-- An option is set when the next one begins, and its value is kept until then. -/
theorem readFrom_option (a : Arguments) (pending : Pending) (o : ValueOption) {value : String}
    (hvalue : Plain value) (rest : List String) :
    readFrom a pending (("--" ++ o.name) :: value :: rest) =
      a.settle pending >>= fun a => readFrom a (some (o, some value)) rest := by
  have hshape : shapeOf ("--" ++ o.name) = .long o.name none := by cases o <;> decide
  have hname : ValueOption.ofName? o.name = some o := by cases o <;> decide
  have hoption : readFrom a pending (("--" ++ o.name) :: value :: rest) =
      a.settle pending >>= fun a => readFrom a (some (o, none)) (value :: rest) := by
    rw [readFrom.eq_def]
    simp only [hshape, hname]
  rw [hoption]
  congr 1
  funext a
  rw [readFrom.eq_def]
  simp only [shapeOf_of_plain hvalue]

/-- A directory, a query and a threshold. -/
theorem read_request {dir query value : String} (hdir : Plain dir) (hne : dir ≠ "")
    (hquery : Plain query) (hvalue : Plain value) :
    read ["--dir", dir, "--query", query, "--threshold", value] =
      match readThreshold value with
      | .ok t => .ok { dir? := some dir, query? := some query, threshold? := some t }
      | .error fault => .error (.refused (.invalidNumber value fault)) := by
  calc readFrom {} none ["--dir", dir, "--query", query, "--threshold", value]
      = readFrom {} (some (.dir, some dir)) ["--query", query, "--threshold", value] :=
        readFrom_option _ _ .dir hdir _
    _ = readFrom { dir? := some dir } (some (.query, some query)) ["--threshold", value] := by
        refine (readFrom_option _ _ .query hquery _).trans ?_
        simp [settle, set, hne, bind, Except.bind]
    _ = readFrom { dir? := some dir, query? := some query } (some (.threshold, some value)) [] :=
        readFrom_option _ _ .threshold hvalue _
    _ = _ := by
        rw [readFrom.eq_def]
        cases hread : readThreshold value <;> simp [settle, set, hread]

end Arguments

/-- A directory and a query are all that a batch run needs. -/
theorem Mode.ofArguments_request {isDir : String → Bool} {dir : String} (hdir : isDir dir = true)
    (q : Report.Query) (threshold? : Option Threshold) :
    Mode.ofArguments isDir { dir? := some dir, query? := some q.name, threshold? } =
      .ok (.batch { dir, query := q, threshold := threshold?.getD 0 }) := by
  have hname : Report.Query.ofName? q.name = some q := by cases q <;> decide
  simp [Mode.ofArguments, dirProblems, queryProblems, hdir, hname, Arguments.threshold]

end TypeCensus
