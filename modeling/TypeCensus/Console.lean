import TypeCensus.Session
import TypeCensus.Sink

/-!
# Console — a session over bytes

Before every line a prompt is written.  The input is cut after every line feed; a line is taken without its line
feed and a carriage return right before that.  The session ends at an exit command, at the end of the input, at a
line that is no valid text, or when the sink is full.  A round of it needs nothing but a terminal to write to and to
read lines from; over bytes the rounds follow each other until one ends the session.
-/

namespace TypeCensus.Console

/-- Written before every line. -/
def prompt : String := "> "

/-- Why a session was cut short. -/
inductive Failure where
  | invalidText
  | sinkFull
deriving BEq, DecidableEq, Inhabited, Repr

/-- The message of a failure. -/
def Failure.message : Failure → String
  | invalidText => "stream did not contain valid UTF-8"
  | sinkFull => "sink full"

/-- How a session went. -/
structure Outcome where
  sink : Sink
  /-- The input that was not read. -/
  unread : List UInt8
  failure : Option Failure := none
deriving BEq, DecidableEq, Inhabited, Repr

/-- The byte that ends a line. -/
def lineFeed : UInt8 := 10

/-- The first line of some input, its line feed included, and the rest. -/
def cut : List UInt8 → List UInt8 × List UInt8
  | [] => ([], [])
  | b :: bs => if b = lineFeed then ([b], bs) else let (l, rest) := cut bs; (b :: l, rest)

theorem length_cut_le (bs : List UInt8) : (cut bs).2.length ≤ bs.length := by
  induction bs with
  | nil => simp [cut]
  | cons b bs ih =>
    simp only [cut]
    split
    · simp
    · simp only [List.length_cons]; omega

theorem length_cut_cons_lt (b : UInt8) (bs : List UInt8) :
    (cut (b :: bs)).2.length < (b :: bs).length := by
  simp only [cut]
  split
  · simp
  · have := length_cut_le bs
    simp only [List.length_cons]
    omega

/-- The text of some bytes, if they are valid UTF-8. -/
def decode? (bs : List UInt8) : Option String := String.fromUTF8? ⟨bs.toArray⟩

/-- A line without its line feed and a carriage return right before that. -/
def strip (line : List UInt8) : List UInt8 :=
  match line.reverse with
  | 10 :: 13 :: r => r.reverse
  | 10 :: r => r.reverse
  | _ => line

/-- What the bytes of a line lead to, if they are valid text. -/
def answer {m : Type → Type} {ε : Type} [Monad m] (provider : Provider m ε) (session : Session)
    (line : List UInt8) : m (Option Turn) :=
  match decode? (strip line) with
  | some text => some <$> session.step provider text
  | none => pure none

/-- Where a session is held. -/
structure Terminal (m : Type → Type) where
  /-- Writes a text; says whether all of it was taken. -/
  write : String → m Bool
  /-- The next line of the input, its line feed included, or nothing at the end. -/
  readLine : m (List UInt8)

/-- Writes texts, each ended by a line feed, until one is not taken. -/
def Terminal.writeLines {m : Type → Type} [Monad m] (t : Terminal m) : List String → m Bool
  | [] => pure true
  | l :: ls => do
    if ← t.write (l ++ "\n") then t.writeLines ls else pure false

/-- What a round of a session leads to. -/
inductive Round where
  | next (session : Session)
  | ends (failure : Option Failure)
deriving BEq, DecidableEq, Inhabited, Repr

/-- What a round leads to, if all that it had to say was taken. -/
def Round.after (r : Round) (taken : Bool) : Round := if taken then r else .ends (some .sinkFull)

/-- A round of a session: a prompt, a line and what it leads to. -/
def round {m : Type → Type} {ε : Type} [Monad m] (t : Terminal m) (provider : Provider m ε)
    (session : Session) : m Round := do
  if ← t.write prompt then
    match ← t.readLine with
    | [] => return Round.after (.ends none) (← t.writeLines [Session.farewell])
    | line =>
      match ← answer provider session line with
      | none => return .ends (some .invalidText)
      | some (.halt output) => return Round.after (.ends none) (← t.writeLines output)
      | some (.goOn output session) => return Round.after (.next session) (← t.writeLines output)
  else return .ends (some .sinkFull)

/-- Goes on with a session over the rest of the input. -/
def runFrom {m : Type → Type} {ε : Type} [Monad m] (provider : Provider m ε) (session : Session)
    (sink : Sink) (input : List UInt8) : m Outcome :=
  match sink.write prompt with
  | (sink, false) => pure ⟨sink, input, some .sinkFull⟩
  | (sink, true) =>
    match input with
    | [] =>
      match sink.writeLines [Session.farewell] with
      | (sink, true) => pure ⟨sink, [], none⟩
      | (sink, false) => pure ⟨sink, [], some .sinkFull⟩
    | b :: bs => do
      let rest := (cut (b :: bs)).2
      match ← answer provider session (cut (b :: bs)).1 with
      | none => pure ⟨sink, rest, some .invalidText⟩
      | some (.halt output) =>
        match sink.writeLines output with
        | (sink, true) => pure ⟨sink, rest, none⟩
        | (sink, false) => pure ⟨sink, rest, some .sinkFull⟩
      | some (.goOn output session) =>
        match sink.writeLines output with
        | (sink, true) => runFrom provider session sink rest
        | (sink, false) => pure ⟨sink, rest, some .sinkFull⟩
termination_by input.length
decreasing_by exact length_cut_cons_lt b bs

/-- A whole session over some input. -/
def run {m : Type → Type} {ε : Type} [Monad m] (provider : Provider m ε) (sink : Sink)
    (input : List UInt8) : m Outcome :=
  runFrom provider {} sink input

end TypeCensus.Console
