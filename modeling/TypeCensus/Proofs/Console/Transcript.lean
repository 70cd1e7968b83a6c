import TypeCensus.Proofs.Command.Grammar
import TypeCensus.Proofs.Console.Lines
import TypeCensus.Proofs.Session.Run
import TypeCensus.Proofs.Sink.Writing

/-!
# Transcript — what a session over bytes writes and reads

`script` says which lines of some input are heeded and how the session ends, without running it; `outcome` says what
a session leaves once the turns of these lines are known.

* `runFrom_eq_outcome`: from any session on, the loop performs the script and leaves the outcome.
* `run_eq_outcome`: so does a whole session, with a sink that takes everything.
-/

namespace TypeCensus

/-- What a turn says. -/
def Turn.output : Turn → List String
  | goOn output _ => output
  | halt output => output

namespace Console

/-! ## The script of an input -/

/-- How a session ends. -/
inductive Ending where
  /-- An exit command was read. -/
  | halted
  /-- The input ran dry. -/
  | dry
  /-- A line was no valid text. -/
  | invalid
deriving DecidableEq, Repr

/-- What a session makes of its input. -/
structure Script where
  /-- The texts of the lines that are performed. -/
  texts : List String := []
  ending : Ending
  unread : List UInt8 := []
deriving DecidableEq, Repr

/-- The script of some lines: they are performed up to the first exit command, or until one is no valid text. -/
def script : List (List UInt8) → Script
  | [] => { ending := .dry }
  | l :: ls =>
    match decode? (content l) with
    | none => { ending := .invalid, unread := ls.flatten }
    | some text =>
      if text ∈ Command.exitWords then
        { texts := [text], ending := .halted, unread := ls.flatten }
      else { script ls with texts := text :: (script ls).texts }

/-! ## The outcome of a script -/

/-- What is written last. -/
def Ending.lastWords : Ending → String
  | halted => ""
  | dry => prompt ++ Session.farewell ++ "\n"
  | invalid => prompt

/-- Why a session was cut short, if it was. -/
def Ending.failure : Ending → Option Failure
  | halted | dry => none
  | invalid => some .invalidText

/-- What is written for a turn: the prompt, and what the turn says, line by line. -/
def spoken (t : Turn) : String := prompt ++ String.join (t.output.map (· ++ "\n"))

/-- What a script leaves, after what has been written before. -/
def outcome (written : List UInt8) (s : Script) (ts : List Turn) : Outcome where
  sink := { written := written ++ Sink.bytesOf (String.join (ts.map spoken) ++ s.ending.lastWords) }
  unread := s.unread
  failure := s.ending.failure

theorem outcome_cons (written : List UInt8) (s : Script) (text : String) (t : Turn)
    (ts : List Turn) :
    outcome written { s with texts := text :: s.texts } (t :: ts) =
      outcome (written ++ Sink.bytesOf (spoken t)) s ts := by
  simp [outcome]

/-! ## A sink that takes everything -/

theorem write_unlimited (written : List UInt8) (text : String) :
    (⟨written, none⟩ : Sink).write text = (⟨written ++ Sink.bytesOf text, none⟩, true) := rfl

theorem writeLines_unlimited (written : List UInt8) (ls : List String) :
    (⟨written, none⟩ : Sink).writeLines ls =
      (⟨written ++ Sink.bytesOf (String.join (ls.map (· ++ "\n"))), none⟩, true) :=
  Sink.writeLines_eq_writeBytes _ ls

/-! ## The loop -/

/-- The loop goes from one line to the next. -/
@[elab_as_elim]
theorem cut_induction {motive : List UInt8 → Prop} (nil : motive [])
    (cons : ∀ b bs, motive (cut (b :: bs)).2 → motive (b :: bs)) (input : List UInt8) :
    motive input :=
  match input with
  | [] => nil
  | b :: bs => cons b bs (cut_induction nil cons (cut (b :: bs)).2)
termination_by input.length
decreasing_by exact length_cut_cons_lt b bs

section Loop

variable {m : Type → Type} {ε : Type} [Monad m] (provider : Provider m ε)

theorem runFrom_nil (s : Session) (written : List UInt8) :
    runFrom provider s ⟨written, none⟩ [] = pure (outcome written (script []) []) := by
  rw [runFrom, write_unlimited]
  simp [writeLines_unlimited, outcome, script, Ending.lastWords, Ending.failure]

/-- One round of the loop, where the input is not empty. -/
theorem runFrom_cons (s : Session) (written : List UInt8) (b : UInt8) (bs : List UInt8) :
    runFrom provider s ⟨written, none⟩ (b :: bs) =
      answer provider s (cut (b :: bs)).1 >>= fun t? =>
        match t? with
        | none =>
          pure ⟨⟨written ++ Sink.bytesOf prompt, none⟩, (cut (b :: bs)).2, some .invalidText⟩
        | some (.halt output) =>
          pure ⟨⟨written ++ Sink.bytesOf (spoken (.halt output)), none⟩, (cut (b :: bs)).2, none⟩
        | some (.goOn output s') =>
          runFrom provider s' ⟨written ++ Sink.bytesOf (spoken (.goOn output s')), none⟩
            (cut (b :: bs)).2 := by
  rw [runFrom, write_unlimited]
  dsimp only
  congr 1
  funext t?
  match t? with
  | none => rfl
  | some (.halt output) => simp [writeLines_unlimited, spoken, Turn.output]
  | some (.goOn output s') => simp [writeLines_unlimited, spoken, Turn.output]

/-- A line that is no valid text ends the loop. -/
theorem answer_eq_none {s : Session} {l : List UInt8} (h : decode? (content l) = none) :
    answer provider s l = pure none := by
  rw [answer, strip_eq_content, h]

theorem answer_eq_perform {s : Session} {l : List UInt8} {text : String}
    (h : decode? (content l) = some text) :
    answer provider s l = some <$> s.perform provider (.line text) := by
  rw [answer, strip_eq_content, h]
  rfl

theorem ends_line_iff {text : String} :
    (Session.Entry.line text).ends = true ↔ text ∈ Command.exitWords := by
  rw [← Command.read_eq_exit_iff]
  unfold Session.Entry.ends
  split
  · next h => exact iff_of_true rfl h
  · next h => exact iff_of_false Bool.false_ne_true h

/-- From any session on, the loop performs the script of its input and leaves the outcome of the script. -/
theorem runFrom_eq_outcome [LawfulMonad m] (s : Session) (written : List UInt8)
    (input : List UInt8) :
    runFrom provider s ⟨written, none⟩ input =
      outcome written (script (lines input)) <$>
        s.turns provider ((script (lines input)).texts.map .line) := by
  induction input using cut_induction generalizing s written with
  | nil => simp [runFrom_nil, lines, script, Session.turns]
  | cons b bs ih =>
    rw [runFrom_cons, lines_eq_cut_cons]
    generalize cut (b :: bs) = p at ih ⊢
    obtain ⟨l, rest⟩ := p
    cases hd : decode? (content l) with
    | none =>
      rw [answer_eq_none provider hd, pure_bind]
      simp [script, hd, Session.turns, outcome, Ending.lastWords, Ending.failure, flatten_lines]
    | some text =>
      rw [answer_eq_perform provider hd, bind_map_left]
      by_cases hends : text ∈ Command.exitWords
      · have hs : script (l :: lines rest) =
            { texts := [text], ending := .halted, unread := rest } := by
          simp [script, hd, hends, flatten_lines]
        have hline : (Session.Entry.line text).ends = true := ends_line_iff.mpr hends
        rw [hs, List.map_singleton, Session.turns_cons_of_ends s [] hline,
          Session.perform_of_ends s hline, pure_bind, map_pure]
        simp [Session.Entry.turn, hline, outcome, Ending.lastWords, Ending.failure]
      · have hs : script (l :: lines rest) =
            { script (lines rest) with texts := text :: (script (lines rest)).texts } := by
          simp [script, hd, hends]
        have hstays : (Session.Entry.line text).ends = false := by
          rw [Bool.eq_false_iff, ne_eq, ends_line_iff]
          exact hends
        obtain ⟨x, hx⟩ := Session.exists_perform_eq_goOn provider s hstays
        rw [hs, List.map_cons, Session.turns_cons_of_perform hx, hx, bind_map_left, map_bind]
        congr 1
        funext q
        dsimp only at ih ⊢
        rw [ih, Functor.map_map]
        simp only [outcome_cons]

end Loop

/-- **A session over bytes**, with a sink that takes everything.  The input is cut into lines, and the contents of
the lines are performed from the empty session on, up to the first exit command.  What is written, what is left
unread and whether the session is cut short follow from the script of the lines and from the turns.  No byte of the
input is lost between the lines, and the end of a line has no part in its being valid text. -/
theorem run_eq_outcome {m : Type → Type} {ε : Type} [Monad m] [LawfulMonad m]
    (provider : Provider m ε) (input : List UInt8) :
    run provider {} input =
        outcome [] (script (lines input)) <$>
          Session.turns provider {} ((script (lines input)).texts.map .line) ∧
      (lines input).flatten = input ∧
      ∀ l, (decode? (content l)).isSome = (decode? l).isSome :=
  ⟨runFrom_eq_outcome provider {} [] input, flatten_lines input, isSome_decode?_content⟩

/-- An input with both ends of lines, a refused line, and bytes after its exit command. -/
def sampleInput : List UInt8 := Sink.bytesOf "load \"a\"\r\nlst\r\r\n\nlist\nq\nlist"

theorem run_sampleInput :
    script (lines sampleInput) =
        { texts := ["load \"a\"", "lst\r", "", "list", "q"], ending := .halted
          unread := Sink.bytesOf "list" } ∧
      run Session.growing {} sampleInput =
        outcome [] (script (lines sampleInput)) <$>
          Session.turns Session.growing {} ((script (lines sampleInput)).texts.map .line) :=
  ⟨by decide +kernel, (run_eq_outcome Session.growing sampleInput).1⟩

end Console

end TypeCensus
