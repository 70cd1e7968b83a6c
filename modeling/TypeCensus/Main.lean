import TypeCensus.Program

/-!
# Main — the program on a real disk

What a run can see of the disk is read beforehand: everything below the directory that is asked about, of the
directories above it and above the current one the files that hold settings and rules, and the files on which the rules
of the user depend.  A session is held round by round on the standard input and output.
-/

namespace TypeCensus.Main

/-- The names after one more component of a path. -/
def afterComponent (names : List String) (c : String) : List String :=
  if c = "" || c = "." then names else if c = ".." then names.dropLast else names ++ [c]

/-- The places that a path leads through, the last one first, from a place. -/
def placesFrom (place : List String) (path : String) : List (List String) :=
  (Disk.components path).foldl (fun places c => afterComponent (places.headD []) c :: places)
    [if path.startsWith "/" then [] else place]

/-- A place and the places above it, from the top. -/
def chain (names : List String) : List (List String) :=
  (List.range (names.length + 1)).map (names.take ·)

/-- The files of a directory that hold settings and rules. -/
def ruleFiles : List (List String) :=
  [[Settings.fileName], [".ignore"], [".gitignore"], [".git", "info", "exclude"]]

/-- The content of a file, if it is one. -/
def readFile? (path : String) : IO (Option Entry) := do
  try
    let content ← IO.FS.readBinFile path
    pure (some (.file content.data.toList))
  catch _ => pure none

/-- All that a path leads to. -/
partial def readAll (path : String) : IO (Option Entry) := do
  let top ← IO.currentDir
  let place := top / path
  if ← place.isDir then
    let names := ((← place.readDir).map (·.fileName)).toList
    let entries ← names.filterMapM fun name => do
      pure ((← readAll (joinPath path name)).map fun e => (name, e))
    pure (some (.dir entries))
  else readFile? path

/-- Adds a directory, if it is one, with its files of settings and rules. -/
def addDirectory (top : Entry) (names : List String) : IO Entry := do
  let path := Walk.placePath names
  if ← ((← IO.currentDir) / path).isDir then
    let top := if (top.descend names).isSome then top else top.insert names (.dir [])
    ruleFiles.foldlM
      (fun top file => do
        match ← readFile? (joinPath path ("/".intercalate file)) with
        | some e => pure (top.insert (names ++ file) e)
        | none => pure top)
      top
  else pure top

/-- Adds the file that a path leads to, if it is one, with the directories on the way. -/
def addFile (d : Disk) (path : String) : IO Disk := do
  let places := placesFrom d.current path
  let top ← (places.tail.flatMap chain).foldlM addDirectory d.top
  match ← readFile? (Walk.placePath (places.headD [])) with
  | some e => pure { d with top := top.insert (places.headD []) e }
  | none => pure { d with top }

/-- Adds the files on which the rules of the user depend. -/
def addOwnRules (d : Disk) : IO Disk := do
  let d ← d.user.settingsFiles.foldlM addFile d
  d.ownFile?.toList.foldlM addFile d

/-- The disk as far as a path, the current directory and the user's own rules show it. -/
def look (path : String) : IO Disk := do
  let current := (placesFrom [] (← IO.currentDir).toString).headD []
  let user : User := { home? := ← IO.getEnv "HOME", config? := ← IO.getEnv "XDG_CONFIG_HOME" }
  let places := placesFrom current path
  let target := places.headD []
  let above := (current :: places).flatMap chain
  let top ← (above.filter (· != target)).foldlM addDirectory (Entry.dir [])
  match ← readAll (Walk.placePath target) with
  | some e => addOwnRules { top := top.insert target e, current, user }
  | none => addOwnRules { top, current, user }

/-- Writes to the standard output; says whether all was taken. -/
def write (bs : List UInt8) : IO Bool := do
  try
    let out ← IO.getStdout
    out.write ⟨bs.toArray⟩
    out.flush
    pure true
  catch _ => pure false

/-- Leaves the errors and the code of a run whose output has been written. -/
def leave (r : Program.Result) : IO UInt32 := do
  IO.eprint r.errors
  pure r.code.toUInt32

/-- The next line of the input, its line feed included. -/
partial def readLine (line : List UInt8) : IO (List UInt8) := do
  let bytes ← (← IO.getStdin).read 1
  match bytes.data.toList with
  | [] => pure line.reverse
  | b :: _ => if b = Console.lineFeed then pure (b :: line).reverse else readLine (b :: line)

/-- The standard input and output. -/
def terminal : Console.Terminal IO where
  write text := write (Sink.bytesOf text)
  readLine := readLine []

/-- Holds a session, round by round. -/
partial def converse (settings : Settings) (session : Session) : IO UInt32 := do
  let provider : Provider IO SourceError := fun root => do pure ((← look root).load settings root)
  match ← Console.round terminal provider session with
  | .next session => converse settings session
  | .ends none => pure Program.exitSuccess.toUInt32
  | .ends (some why) => leave (Program.failed [] Program.sessionFailed why)

/-- Writes the report that is asked for. -/
def report (d : Disk) (request : Batch.Request) : IO UInt32 := do
  let (sink, _) := (Batch.run (d.provider (Program.settings d)) request {}).run
  leave (Program.ofReport (sink, ← write sink.written))

/-- The directory that arguments name. -/
def dirOf (args : List String) : String :=
  match Arguments.read args with
  | .ok a => a.dir?.getD "."
  | .error _ => "."

end TypeCensus.Main

open TypeCensus in
/-- Runs the program. -/
def main (args : List String) : IO UInt32 := do
  let d ← Main.look (Main.dirOf args)
  match Program.modeOf d args with
  | .ok .interactive => Main.converse (Program.settings d) {}
  | .ok (.batch request) => Main.report d request
  | .error r => do
    let _ ← Main.write r.output
    Main.leave r
