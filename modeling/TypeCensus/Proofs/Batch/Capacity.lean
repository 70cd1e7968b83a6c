import TypeCensus.Program
import TypeCensus.Proofs.Sink.Writing

/-!
# Capacity — a batch run whose sink fills up

The report of a batch run is the text of its lines, each ended by a line feed.  What a sink takes of it does not depend
on where one write ends and the next one begins.

* `run_eq_writeBytes`: a run asks once, and writes its report like one text.
* `run_eq_writeEach`: so it does if every line is written in pieces.
* `seen_writeBytes`: what is seen of bytes that may not fit.
* `report_within_room`: a run with a sink that takes only so many bytes.
-/

namespace TypeCensus

/-! ## Writing a report -/

namespace Report

open Sink (bytesOf)

theorem render_eq_textOf (ls : List Line) : render ls = Sink.textOf (ls.map Line.render) := by
  rw [render, Sink.textOf, List.map_map]
  rfl

/-- The pieces that a line is put together from. -/
def Line.pieces (l : Line) : List String := [l.subject, " : ", l.value.render, "\n"]

theorem Line.join_pieces (l : Line) : String.join l.pieces = l.render ++ "\n" := by
  simp [pieces, render, String.append_assoc]

theorem flatten_pieces (ls : List Line) :
    (ls.flatMap fun l => l.pieces.map bytesOf).flatten = bytesOf (render ls) := by
  induction ls with
  | nil => rfl
  | cons l ls ih =>
    have hrender : render (l :: ls) = String.join l.pieces ++ render ls := by
      rw [l.join_pieces]
      simp [render, String.join_cons]
    rw [List.flatMap_cons, List.flatten_append, ih, hrender, Sink.bytesOf_append, Sink.bytesOf_join]

theorem writeLines_render (sink : Sink) (ls : List Line) :
    sink.writeLines (ls.map Line.render) = sink.writeBytes (bytesOf (render ls)) := by
  rw [Sink.writeLines_eq_writeBytes, render_eq_textOf]

theorem writeEach_pieces (sink : Sink) (ls : List Line) :
    sink.writeEach (ls.flatMap fun l => l.pieces.map bytesOf) =
      sink.writeBytes (bytesOf (render ls)) := by
  rw [Sink.writeEach_eq_writeBytes, flatten_pieces]

end Report

namespace Batch

open Sink (bytesOf)

/-! ## Runs -/

/-- The bytes of the report on the units among some answers. -/
def Request.report {ε : Type} (q : Request) (answers : List (Except ε CompilationUnit)) : List UInt8 :=
  bytesOf (Report.render (q.query.run (keptUnits answers) q.threshold))

/-- What is seen of a run: what it has written, and what is said about its failure, if it failed. -/
def seen (r : Sink × Bool) : List UInt8 × Except String Unit := (r.1.written, (ending r).mapError message)

section Run

variable {m : Type → Type} {ε : Type} [Monad m] [LawfulMonad m] (provider : Provider m ε) (q : Request)

/-- The provider is asked once, for the directory, and the report is written like one text. -/
theorem run_eq_writeBytes (sink : Sink) :
    run provider q sink = (fun answers => sink.writeBytes (q.report answers)) <$> provider q.dir := by
  rw [run, bind_pure_comp]
  simp only [Report.writeLines_render]
  rfl

/-- Nothing changes if every line is written in its pieces. -/
theorem run_eq_writeEach (sink : Sink) :
    run provider q sink =
      (fun answers => sink.writeEach
        ((q.query.run (keptUnits answers) q.threshold).flatMap fun l => l.pieces.map bytesOf)) <$>
        provider q.dir := by
  rw [run_eq_writeBytes]
  simp only [Report.writeEach_pieces]
  rfl

end Run

/-! ## A sink that fills up -/

/-- The bytes that fit are written, and a run succeeds just if these are all. -/
theorem seen_writeBytes (n : Nat) (bs : List UInt8) :
    seen (Sink.writeBytes { room := some n } bs) =
      (bs.take (min n bs.length),
        if bs.length ≤ n then .ok () else .error "Failed to write report: sink full") := by
  by_cases h : bs.length ≤ n
  · rw [Sink.writeBytes_of_le h, if_pos h, Nat.min_eq_right h, List.take_length]
    rfl
  · have hlt : n < bs.length := by omega
    rw [Sink.writeBytes_of_lt hlt, if_neg h, Nat.min_eq_left (Nat.le_of_lt hlt)]
    rfl

/-- **A batch run whose sink fills up.**  A sink that takes `n` bytes receives the first `n` of the report, or all of
them if there are not so many.  The run succeeds just if these are all; otherwise it is said that the report could not
be written because the sink is full.  Either way the provider is asked once.  A report on singletons is the same for
every threshold. -/
theorem report_within_room {m : Type → Type} {ε : Type} [Monad m] [LawfulMonad m]
    (provider : Provider m ε) (q : Request) (n : Nat) :
    seen <$> run provider q { room := some n } =
        (fun answers =>
          let report := q.report answers
          (report.take (min n report.length),
            if report.length ≤ n then .ok () else .error "Failed to write report: sink full")) <$>
          provider q.dir ∧
      ∀ (t : Report.Threshold) (answers : List (Except ε CompilationUnit)),
        q.query = .singletons → { q with threshold := t }.report answers = q.report answers := by
  refine ⟨?_, fun t answers hq => ?_⟩
  · rw [run_eq_writeBytes, Functor.map_map]
    simp only [seen_writeBytes]
  · obtain ⟨dir, query, threshold⟩ := q
    obtain rfl : query = .singletons := hq
    rfl

/-- Answers with two singletons among errors, and counts how often it is asked. -/
def sampleProvider : Provider (StateM Nat) String := fun path => do
  modify (· + 1)
  pure [.error path,
    .ok ⟨"É.java", none,
      [.classLike .ordinary { Members.named "É" none with fields := [⟨.publicly, true, "INSTANCE"⟩] }]⟩,
    .error path, .ok ⟨"E.java", some "p", [.enumeration ["INSTANCE"] (.named "E" (some "p"))]⟩]

/-- A request for singletons. -/
def sampleRequest : Request := ⟨"src", .singletons, 3⟩

/-- What is reported on them. -/
def sampleText : String := "É : publicField\np.E : singletonEnum\n"

/-- A sink that is full after the whole report, right before its last line feed, and in the middle of a character. -/
theorem report_within_room_sample :
    (seen <$> run sampleProvider sampleRequest { room := some 37 }).run 0 =
        ((bytesOf sampleText, .ok ()), 1) ∧
      (seen <$> run sampleProvider sampleRequest { room := some 36 }).run 0 =
        ((bytesOf "É : publicField\np.E : singletonEnum", .error "Failed to write report: sink full"), 1) ∧
      (seen <$> run sampleProvider sampleRequest { room := some 1 }).run 0 =
        (([0xc3], .error "Failed to write report: sink full"), 1) ∧
      sampleRequest.query = .singletons ∧
      { sampleRequest with threshold := 0 }.report ((sampleProvider "src").run 0).1 =
        sampleRequest.report ((sampleProvider "src").run 0).1 := by
  have hreport : sampleRequest.report ((sampleProvider "src").run 0).1 = bytesOf sampleText := by
    decide +kernel
  have hrun (n : Nat) : (seen <$> run sampleProvider sampleRequest { room := some n }).run 0 =
      (((bytesOf sampleText).take (min n (bytesOf sampleText).length),
        if (bytesOf sampleText).length ≤ n then .ok ()
        else .error "Failed to write report: sink full"), 1) := by
    rw [(report_within_room sampleProvider sampleRequest n).1, ← hreport]
    rfl
  have hlength : (bytesOf sampleText).length = 37 := by decide +kernel
  have hall : (bytesOf sampleText).take 37 = bytesOf sampleText :=
    List.take_of_length_le (Nat.le_of_eq hlength)
  have hmost : (bytesOf sampleText).take 36 = bytesOf "É : publicField\np.E : singletonEnum" := by
    decide +kernel
  have hhalf : (bytesOf sampleText).take 1 = [0xc3] := by decide +kernel
  refine ⟨?_, ?_, ?_, rfl, (report_within_room sampleProvider sampleRequest 0).2 0 _ rfl⟩
  · simp [hrun, hlength, hall]
  · simp [hrun, hlength, hmost]
  · simp [hrun, hlength, hhalf]

end Batch

end TypeCensus
