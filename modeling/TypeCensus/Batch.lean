import TypeCensus.Console

/-!
# Batch — one question on one directory

The directory is loaded once, and the lines of the report are written until they do not fit.
-/

namespace TypeCensus.Batch

/-- What a batch run asks. -/
structure Request where
  dir : String
  query : Report.Query
  threshold : Report.Threshold
deriving BEq, DecidableEq, Inhabited, Repr

/-- What is said when a report does not fit. -/
def failureMessage : String := "Failed to write report"

/-- Writes the report that is asked for; says whether all of it did fit. -/
def run {m : Type → Type} {ε : Type} [Monad m] (provider : Provider m ε) (q : Request) (sink : Sink) :
    m (Sink × Bool) := do
  let us := keptUnits (← provider q.dir)
  pure (sink.writeLines ((q.query.run us q.threshold).map Report.Line.render))

/-- How a run ends: in the failure that kept it from writing all of the report, if one did. -/
def ending (r : Sink × Bool) : Except Console.Failure Unit :=
  if r.2 then .ok () else .error .sinkFull

/-- What is said about a failure: what could not be done, and then why. -/
def message (why : Console.Failure) : String := failureMessage ++ ": " ++ why.message

end TypeCensus.Batch
