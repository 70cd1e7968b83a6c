import TypeCensus.Console
import Mathlib.Control.Lawful

/-!
# Rounds — a session on a terminal, round by round

A round is the same on every terminal.  A terminal in memory has a sink for what is written and some input that is not
read yet.  On it the rounds of a session follow each other just as the session goes on over the rest of its input, and
nothing else goes on in that way.

* `writeLines_memory`, `answer_aside`: writing on a terminal in memory, and asking a provider that leaves it alone.
* `run_round_full`, `run_round_nil`, `run_round_cons`: a round, by whether the prompt is taken and a line is left.
* `runFrom_eq_round`: a session goes on by a round.
* `eq_runFrom_of_rounds`: whatever goes on by rounds is that session.
-/

namespace TypeCensus.Console

variable {m : Type → Type} {ε : Type} [Monad m]

/-- A terminal in memory. -/
def memory : Terminal (StateT (Sink × List UInt8) m) where
  write text := fun (sink, input) => pure ((sink.write text).2, (sink.write text).1, input)
  readLine := fun (sink, input) => pure ((cut input).1, sink, (cut input).2)

/-- A provider that leaves the terminal alone. -/
def aside (provider : Provider m ε) : Provider (StateT (Sink × List UInt8) m) ε :=
  fun root => StateT.lift (provider root)

/-- What follows a round: the session goes on in some way, or it has come to its end. -/
def followedBy (next : Session → Sink → List UInt8 → m Outcome) : Round × Sink × List UInt8 → m Outcome
  | (.next session, sink, input) => next session sink input
  | (.ends failure, sink, input) => pure ⟨sink, input, failure⟩

theorem run_write_memory (text : String) (sink : Sink) (input : List UInt8) :
    ((memory (m := m)).write text).run (sink, input) = pure ((sink.write text).2, (sink.write text).1, input) := rfl

theorem run_readLine_memory (sink : Sink) (input : List UInt8) :
    ((memory (m := m)).readLine).run (sink, input) = pure ((cut input).1, sink, (cut input).2) := rfl

variable [LawfulMonad m]

theorem writeLines_memory (ls : List String) (sink : Sink) (input : List UInt8) :
    ((memory (m := m)).writeLines ls).run (sink, input) =
      pure ((sink.writeLines ls).2, (sink.writeLines ls).1, input) := by
  induction ls generalizing sink with
  | nil => rfl
  | cons l ls ih =>
    rw [Terminal.writeLines, Sink.writeLines, StateT.run_bind, run_write_memory, pure_bind]
    rcases sink.write (l ++ "\n") with ⟨sink', taken⟩
    cases taken with
    | true => exact ih sink'
    | false => rfl

theorem answer_aside (provider : Provider m ε) (session : Session) (line : List UInt8)
    (s : Sink × List UInt8) :
    (answer (aside provider) session line).run s = (·, s) <$> answer provider session line := by
  unfold answer
  cases decode? (strip line) with
  | none => simp
  | some text =>
    dsimp only
    unfold Session.step
    cases Command.read text with
    | error r => simp
    | ok c => cases c <;> simp [Session.execute, aside]

/-- What a turn leads to on a sink, and the sink after it. -/
def told (sink : Sink) : Option Turn → Round × Sink
  | none => (.ends (some .invalidText), sink)
  | some (.halt output) => ((Round.ends none).after (sink.writeLines output).2, (sink.writeLines output).1)
  | some (.goOn output session) => ((Round.next session).after (sink.writeLines output).2, (sink.writeLines output).1)

variable (provider : Provider m ε) (session : Session)

theorem run_round_full {sink sink' : Sink} (hprompt : sink.write prompt = (sink', false)) (input : List UInt8) :
    (round memory (aside provider) session).run (sink, input) = pure (.ends (some .sinkFull), sink', input) := by
  rw [round, StateT.run_bind, run_write_memory, pure_bind, hprompt]
  rfl

theorem run_round_nil {sink sink' : Sink} (hprompt : sink.write prompt = (sink', true)) :
    (round memory (aside provider) session).run (sink, []) =
      pure ((Round.ends none).after (sink'.writeLines [Session.farewell]).2,
        (sink'.writeLines [Session.farewell]).1, []) := by
  rw [round, StateT.run_bind, run_write_memory, pure_bind, hprompt]
  dsimp only
  rw [if_pos rfl, StateT.run_bind, run_readLine_memory, pure_bind]
  simp only [cut, StateT.run_bind, writeLines_memory, pure_bind]
  rfl

theorem run_round_cons {sink sink' : Sink} (hprompt : sink.write prompt = (sink', true)) (b : UInt8)
    (bs : List UInt8) :
    (round memory (aside provider) session).run (sink, b :: bs) =
      (fun turn => ((told sink' turn).1, (told sink' turn).2, (cut (b :: bs)).2)) <$>
        answer provider session (cut (b :: bs)).1 := by
  obtain ⟨c, line, hline⟩ : ∃ c line, (cut (b :: bs)).1 = c :: line := by
    rw [cut]
    split <;> exact ⟨_, _, rfl⟩
  rw [round, StateT.run_bind, run_write_memory, pure_bind, hprompt]
  dsimp only
  rw [if_pos rfl, StateT.run_bind, run_readLine_memory, pure_bind]
  simp only [hline]
  rw [StateT.run_bind, answer_aside, map_eq_pure_bind, map_eq_pure_bind, bind_assoc]
  refine bind_congr fun turn => ?_
  rw [pure_bind]
  cases turn with
  | none => rfl
  | some turn => cases turn <;> simp [writeLines_memory, told]

/-- A session goes on by a round, which may end it. -/
theorem runFrom_eq_round (sink : Sink) (input : List UInt8) :
    runFrom provider session sink input =
      (round memory (aside provider) session).run (sink, input) >>= followedBy (runFrom provider) := by
  rcases hprompt : sink.write prompt with ⟨sink', taken⟩
  rw [runFrom.eq_def, hprompt]
  cases taken with
  | false => rw [run_round_full provider session hprompt, pure_bind]; rfl
  | true =>
    cases input with
    | nil =>
      rw [run_round_nil provider session hprompt, pure_bind]
      dsimp only
      rcases sink'.writeLines [Session.farewell] with ⟨sink'', taken⟩
      cases taken <;> rfl
    | cons b bs =>
      rw [run_round_cons provider session hprompt, map_eq_pure_bind, bind_assoc]
      refine bind_congr fun turn => ?_
      rw [pure_bind]
      match turn with
      | none => rfl
      | some (.halt output) | some (.goOn output session) =>
        dsimp only [told]
        rcases sink'.writeLines output with ⟨sink'', taken⟩
        cases taken <;> rfl

/-- Whatever goes on by rounds goes on as the session does. -/
theorem eq_runFrom_of_rounds (goOn : Session → Sink → List UInt8 → m Outcome)
    (hround : ∀ session sink input, goOn session sink input =
      (round memory (aside provider) session).run (sink, input) >>= followedBy goOn)
    (sink : Sink) (input : List UInt8) : goOn session sink input = runFrom provider session sink input := by
  -- a round that does not end the session has read a line
  induction hlength : input.length using Nat.strongRecOn generalizing session sink input with
  | ind k ih =>
    subst hlength
    rw [hround, runFrom_eq_round]
    rcases hprompt : sink.write prompt with ⟨sink', taken⟩
    cases taken with
    | false => simp [run_round_full provider session hprompt, followedBy]
    | true =>
      cases input with
      | nil =>
        rw [run_round_nil provider session hprompt, pure_bind, pure_bind]
        cases (sink'.writeLines [Session.farewell]).2 <;> rfl
      | cons b bs =>
        rw [run_round_cons provider session hprompt, map_eq_pure_bind, bind_assoc, bind_assoc]
        refine bind_congr fun turn => ?_
        rw [pure_bind, pure_bind]
        cases (told sink' turn).1 with
        | ends failure => rfl
        | next session => exact ih _ (length_cut_cons_lt b bs) session _ _ rfl

end TypeCensus.Console
