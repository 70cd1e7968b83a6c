import TypeCensus.CommandLine.Mode
import TypeCensus.Console
import TypeCensus.Loading

/-!
# Program — a whole run

A run takes the arguments, a disk and the input, and leaves an exit code and two texts.  Help and version are a
success; what is wrong with the arguments is said together with the usage.
-/

namespace TypeCensus

namespace Program

/-- The name of the program and its version. -/
def versionText : String := "classlens 0.1.0\n"

/-- How the program is called. -/
def usage : String := "Usage: classlens [OPTIONS]"

/-- The help. -/
def helpText : String := "\n".intercalate [
  "Static-analysis queries over Java codebases",
  "",
  usage,
  "",
  "Options:",
  "      --dir <DIRNAME>      Directory containing the sources to analyze (batch mode)",
  "      --query <mc|mcp|st>  Query to run (batch mode): mc, mcp or st",
  "      --threshold <VALUE>  Threshold for count-based queries [default: 0]",
  "      --interactive        Start an interactive session; --dir and --query are ignored",
  "  -h, --help               Print help",
  "  -V, --version            Print version",
  ""]

/-- The code of a run that went well. -/
def exitSuccess : UInt8 := 0

/-- The code of a run with unusable arguments. -/
def exitConfigError : UInt8 := 1

/-- The code of a run that was cut short. -/
def exitFailure : UInt8 := 1

/-- What a run leaves. -/
structure Result where
  code : UInt8
  output : List UInt8 := []
  errors : String := ""
deriving BEq, DecidableEq, Inhabited, Repr

/-- What is said about unusable arguments, with a hint on their use. -/
def complaint (message : String) : String :=
  "\n".intercalate ["error: " ++ message, "", usage, "", "For more information, try '--help'.", ""]

/-- The result of a run that was cut short. -/
def failed (output : List UInt8) (what : String) (why : Console.Failure) : Result where
  code := exitFailure
  output
  errors := "Error: " ++ what ++ ": " ++ why.message ++ "\n"

/-- The result of arguments that are not read to their end. -/
def stopped : Arguments.Stop → Result
  | .help => { code := exitSuccess, output := Sink.bytesOf helpText }
  | .version => { code := exitSuccess, output := Sink.bytesOf versionText }
  | .refused r => { code := exitConfigError, errors := complaint r.message }

/-- The message about a mode that cannot be entered. -/
def configurationMessage (message : String) : String := "Configuration error: " ++ message

/-- The mode that arguments ask for, or the result of a run that ends here. -/
def modeOf (d : Disk) (args : List String) : Except Result Mode :=
  match Arguments.read args with
  | .error stop => .error (stopped stop)
  | .ok a =>
    match Mode.ofArguments d.isDir a with
    | .ok mode => .ok mode
    | .error problems =>
      .error
        { code := exitConfigError
          errors := complaint (configurationMessage (Mode.problemsMessage problems)) }

/-- What is said when a session is cut short. -/
def sessionFailed : String := "Interactive session failed"

/-- The result of a session. -/
def ofOutcome (o : Console.Outcome) : Result :=
  match o.failure with
  | none => { code := exitSuccess, output := o.sink.written }
  | some why => failed o.sink.written sessionFailed why

/-- The result of a batch run, where it is known whether all of the report did fit. -/
def ofReport (r : Sink × Bool) : Result :=
  match Batch.ending r with
  | .ok () => { code := exitSuccess, output := r.1.written }
  | .error why => failed r.1.written Batch.failureMessage why

/-- The settings of a run are those of its current directory. -/
def settings (d : Disk) : Settings := d.settings (Walk.placePath d.current)

section Reading

variable (reader : Reader)

/-- Runs in a mode, where some reader reads the sources. -/
def runModeWith (d : Disk) (input : List UInt8) : Mode → Result
  | .interactive => ofOutcome (Console.run (d.providerWith reader (settings d)) {} input).run
  | .batch request => ofReport (Batch.run (d.providerWith reader (settings d)) request {}).run

/-- Runs the program, where some reader reads the sources. -/
def runWith (d : Disk) (args : List String) (input : List UInt8) : Result :=
  match modeOf d args with
  | .error r => r
  | .ok mode => runModeWith reader d input mode

end Reading

/-- Runs the program. -/
def run (d : Disk) (args : List String) (input : List UInt8) : Result := runWith Java.parse d args input

end Program

end TypeCensus
