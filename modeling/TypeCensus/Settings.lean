import TypeCensus.Toml.Document
import TypeCensus.Walk

/-!
# Settings — what a settings file says

A settings file is a document with at most two tables of interest: `walk` with two flags, and `ignore` with a list of
patterns.  In the place of a table an array may give the values by position.  The nearest settings file decides, even
if it is broken.
-/

namespace TypeCensus

open Toml (Table Value)

/-- The settings of a project. -/
structure Settings where
  walk? : Option WalkOptions := none
  ignore? : Option (List String) := none
deriving BEq, DecidableEq, Inhabited, Repr

namespace Settings

/-- What the walk takes into account. -/
def walk (s : Settings) : WalkOptions := s.walk?.getD {}

/-- The patterns of files to leave out. -/
def patterns (s : Settings) : List String := s.ignore?.getD []

/-- The name of settings files. -/
def fileName : String := ".classlens.toml"

/-- What is wrong with a settings file. -/
inductive Error where
  | malformed
  | invalidPattern (pattern : String) (error : Glob.Error)
deriving BEq, DecidableEq, Inhabited, Repr

/-- The wording of an error. -/
def Error.message : Error → String
  | malformed => "Failed to parse " ++ fileName
  | invalidPattern pattern e => "Invalid ignore pattern `" ++ pattern ++ "`: " ++ e.message

/-- The value of a key, or at a position, of what stands for a table; a date stands for a table without keys. Nothing
if the value is neither. -/
def member? (key : String) (position : Nat) : Value → Option (Option Value)
  | .table _ t => some (t.lookup key)
  | .array vs => some vs[position]?
  | .tables ts => some (ts[position]?.map (Value.table .header))
  | .date _ => some none
  | _ => none

/-- The value of a flag that is true unless it is given. -/
def flag? (key : String) (position : Nat) (v : Value) : Option Bool :=
  match member? key position v with
  | some none => some true
  | some (some (.boolean b)) => some b
  | _ => none

/-- The text of a value that is one. -/
def text? : Value → Option String
  | .string s => some s
  | _ => none

/-- What the table `walk` says. -/
def walkOf? (v : Value) : Option WalkOptions :=
  match flag? "hidden" 0 v, flag? "git_ignore" 1 v with
  | some hidden, some gitIgnore => some { hidden, gitIgnore }
  | _, _ => none

/-- What the table `ignore` says. -/
def patternsOf? (v : Value) : Option (List String) :=
  match member? "patterns" 0 v with
  | some (some (.array vs)) => vs.mapM text?
  | _ => none

/-- What a document says; nothing if a table of interest is not as it has to be. -/
def ofTable? (t : Table) : Option Settings :=
  match (t.lookup "walk").map walkOf?, (t.lookup "ignore").map patternsOf? with
  | some none, _ | _, some none => none
  | walk, ignore => some { walk? := walk.join, ignore? := ignore.join }

/-- The first invalid pattern. -/
def firstInvalid? : List String → Option (String × Glob.Error)
  | [] => none
  | p :: ps =>
    match Glob.ofString p with
    | .ok _ => firstInvalid? ps
    | .error e => some (p, e)

/-- Reads settings. -/
def read (text : String) : Except Error Settings :=
  match (Toml.read? text).bind ofTable? with
  | none => .error .malformed
  | some s =>
    match firstInvalid? s.patterns with
    | none => .ok s
    | some (p, e) => .error (.invalidPattern p e)

/-- How many directories are searched for a settings file. -/
def searchDepth : Nat := 10

end Settings

namespace Disk

/-- Whether a path leads to a file. -/
def isFile (d : Disk) (path : String) : Bool := (d.read? path).isSome

/-- The path of the settings file in a directory or the nearest one above it. -/
def settingsFile? (d : Disk) (start : String) : Option String :=
  ((selfAndAbove Settings.searchDepth start).map (joinPath · Settings.fileName)).find? d.isFile

/-- The settings that hold in a directory. A file that is broken counts as an empty one. -/
def settings (d : Disk) (start : String) : Settings :=
  match (d.settingsFile? start).bind d.readText? with
  | none => {}
  | some text => (Settings.read text).toOption.getD {}

end Disk

end TypeCensus
