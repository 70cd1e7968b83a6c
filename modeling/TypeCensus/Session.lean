import TypeCensus.Command

/-!
# Session — what a command does

A session holds the units of the last load, if there was one.  Units come from a provider, which is asked once for
every load; a file that cannot be taken is an error among its answers and is left out.
-/

namespace TypeCensus

/-- Answers with the units of a directory, in order, and with errors in the place of those it could not take. -/
abbrev Provider (m : Type → Type) (ε : Type) := String → m (List (Except ε CompilationUnit))

/-- The units among the answers of a provider. -/
def keptUnits {ε : Type} (answers : List (Except ε CompilationUnit)) : List CompilationUnit :=
  answers.filterMap Except.toOption

/-- What is loaded; nothing before the first load. -/
structure Session where
  units? : Option (List CompilationUnit) := none
deriving BEq, DecidableEq, Inhabited, Repr

/-- What a line leads to. -/
inductive Turn where
  | goOn (output : List String) (session : Session)
  | halt (output : List String)
deriving BEq, DecidableEq, Inhabited, Repr

namespace Session

/-- The answer to questions before the first load. -/
def nothingLoaded : String := "no classes loaded, load first"

/-- The last words of a session. -/
def farewell : String := "Bye!"

/-- The answer to `help`. -/
def helpText : String := "\n".intercalate [
  "Commands:",
  "  load \"<dir>\"               load every .java file under <dir>, replacing the session",
  "  list                       list the types of the loaded session",
  "  mc th <n>                  classes with at least <n> non-private constructors",
  "  many-constructors th <n>   same as mc",
  "  help | h                   show this message",
  "  exit | quit | q            leave the session"]

/-- The end of a session. -/
def farewellTurn : Turn := .halt [farewell]

/-- The loaded units, if any. -/
def units (s : Session) : List CompilationUnit := s.units?.getD []

/-- The names of all loaded types. A load that found no file counts as none here. -/
def listing (s : Session) : List String :=
  match s.units with
  | [] => [nothingLoaded]
  | us => (Report.allTypes us).map TypeDecl.qualifiedName

/-- What is said after a load. -/
def loadedMessage (count : Nat) (path : String) : String :=
  "Loaded " ++ toString count ++ " files from " ++ path

/-- Executes a command. -/
def execute {m : Type → Type} {ε : Type} [Monad m] (provider : Provider m ε) (s : Session) :
    Command → m Turn
  | .help => pure (.goOn [helpText] s)
  | .exit => pure farewellTurn
  | .list => pure (.goOn s.listing s)
  | .load path => do
    let us := keptUnits (← provider path)
    pure (.goOn [loadedMessage us.length path] ⟨some us⟩)
  | .manyConstructors t =>
    pure (.goOn ((Report.manyConstructors s.units t).map Report.Line.render) s)

/-- Reads and executes a line. -/
def step {m : Type → Type} {ε : Type} [Monad m] (provider : Provider m ε) (s : Session)
    (line : String) : m Turn :=
  match Command.read line with
  | .ok c => s.execute provider c
  | .error r => pure (.goOn [r.message] s)

end Session

end TypeCensus
