import TypeCensus.Batch
import TypeCensus.CommandLine.Arguments

/-!
# Mode — what the program is to do

A session is held if it is asked for, whatever else is given.  Otherwise a directory and a query are needed, and all
that is wrong with them is said at once.
-/

namespace TypeCensus

/-- What the program is to do. -/
inductive Mode where
  | interactive
  | batch (request : Batch.Request)
deriving BEq, DecidableEq, Inhabited, Repr

namespace Mode

/-- What is wrong with the arguments of a batch run. -/
inductive Problem where
  | dirMissing
  | notDirectory (dir : String)
  | queryMissing
  | unknownQuery (name : String)
deriving BEq, DecidableEq, Inhabited, Repr

/-- The wording of a problem. -/
def Problem.message : Problem → String
  | dirMissing => "--dir is required in batch mode"
  | notDirectory dir => "--dir " ++ dir ++ " is not a directory"
  | queryMissing => "--query is required in batch mode"
  | unknownQuery name =>
    "--query `" ++ name ++ "` is not one of " ++ ", ".intercalate (Report.Query.all.map (·.name))

/-- What is wrong with a directory. -/
def dirProblems (isDir : String → Bool) : Option String → List Problem
  | none => [.dirMissing]
  | some dir => if isDir dir then [] else [.notDirectory dir]

/-- What is wrong with a query. -/
def queryProblems : Option String → List Problem
  | none => [.queryMissing]
  | some name => if (Report.Query.ofName? name).isSome then [] else [.unknownQuery name]

/-- The mode that arguments ask for, or all that is wrong with them. -/
def ofArguments (isDir : String → Bool) (a : Arguments) : Except (List Problem) Mode :=
  if a.interactive then .ok .interactive
  else
    match dirProblems isDir a.dir? ++ queryProblems a.query?, a.dir?,
      a.query?.bind Report.Query.ofName? with
    | [], some dir, some query => .ok (.batch { dir, query, threshold := a.threshold })
    | problems, _, _ => .error problems

/-- The message about problems. -/
def problemsMessage (problems : List Problem) : String :=
  "; ".intercalate (problems.map Problem.message)

end Mode

end TypeCensus
