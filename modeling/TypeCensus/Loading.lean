import TypeCensus.Java.Unit
import TypeCensus.Session
import TypeCensus.Settings

/-!
# Loading — the units of a directory

Every source that the walk finds gives a unit, or an error in its place.  A directory that cannot be walked, or an
invalid pattern, gives nothing at all.  What reads the text of a source as concrete syntax is left open, and then it is
the grammar of Java.
-/

namespace TypeCensus

/-- Why a source gives no unit. -/
inductive SourceError where
  | unreadable (path : String)
  | faulty (path : String) (fault : Syntax.Fault)
deriving BEq, DecidableEq, Inhabited, Repr

/-- The message of an error. -/
def SourceError.message : SourceError → String
  | unreadable _ => "File system error: Failed to read file"
  | faulty path fault => "Parse error in " ++ path ++ ": " ++ fault.message

/-- All patterns, or the error in the first invalid one. -/
def Glob.ofStrings (ps : List String) : Except Glob.Error (List Glob) := ps.mapM Glob.ofString

/-- Reads the text of a source as concrete syntax. -/
abbrev Reader := String → Syntax.Node

namespace Disk

/-- The text of a source. -/
def source (d : Disk) (path : String) : Except SourceError String :=
  match d.readText? path with
  | some text => .ok text
  | none => .error (.unreadable path)

section Reading

variable (reader : Reader)

/-- The unit of the source that a path leads to, as some reader reads it. -/
def unitWith (d : Disk) (path : String) : Except SourceError CompilationUnit := do
  let text ← d.source path
  match Java.unitOrFault path text (reader text) with
  | .ok u => .ok u
  | .error fault => .error (.faulty path fault)

/-- The units of a directory, as some reader reads them. -/
def loadWith (d : Disk) (s : Settings) (root : String) : List (Except SourceError CompilationUnit) :=
  match Glob.ofStrings s.patterns with
  | .ok globs => ((d.walk? s.walk globs root).getD []).map (d.unitWith reader)
  | .error _ => []

/-- Provides the units of directories on a disk, as some reader reads them. -/
def providerWith (d : Disk) (s : Settings) : Provider Id SourceError := fun root => d.loadWith reader s root

end Reading

/-- The unit of the source that a path leads to. -/
def unit (d : Disk) (path : String) : Except SourceError CompilationUnit := d.unitWith Java.parse path

/-- The units of a directory. -/
def load (d : Disk) (s : Settings) (root : String) : List (Except SourceError CompilationUnit) :=
  d.loadWith Java.parse s root

/-- Provides the units of directories on a disk. -/
def provider (d : Disk) (s : Settings) : Provider Id SourceError := d.providerWith Java.parse s

end Disk

end TypeCensus
