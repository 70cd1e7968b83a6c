import TypeCensus.Report.Query

/-!
# Command — the lines of a session

A line is a command as a whole or not at all:

    help | h          exit | quit | q          list
    load "<path>"     (mc | many-constructors) th <digits>

Between words stand spaces and tabs.  A path holds any text without a quote.  What is refused is located: the offset
counts the bytes of the line before the place where reading stopped.
-/

namespace TypeCensus

open Report (Threshold)

/-- A command of a session. -/
inductive Command where
  | help
  | exit
  | list
  | load (path : String)
  | manyConstructors (threshold : Threshold)
deriving BEq, DecidableEq, Inhabited, Repr

namespace Command

/-- The text of a command. -/
def render : Command → String
  | help => "help"
  | exit => "exit"
  | list => "list"
  | load path => "load \"" ++ path ++ "\""
  | manyConstructors threshold => "mc th " ++ toString threshold.toNat

/-- Why a line is refused. -/
inductive Cause where
  | emptyCommand
  | expectedCommand
  | unknownCommand (word : String)
  | expectedBlank
  | expectedKeyword (word : String)
  | expectedString
  | unterminatedString
  | expectedInteger
  | outOfRange (digits : String)
  | trailingInput (rest : String)
deriving BEq, DecidableEq, Inhabited, Repr

/-- The wording of a cause. -/
def Cause.message : Cause → String
  | emptyCommand => "empty command"
  | expectedCommand => "expected a command"
  | unknownCommand word => "unknown command `" ++ word ++ "`"
  | expectedBlank => "expected whitespace"
  | expectedKeyword word => "expected `" ++ word ++ "`"
  | expectedString => "expected a quoted string"
  | unterminatedString => "unterminated string"
  | expectedInteger => "expected an integer"
  | outOfRange digits => "integer `" ++ digits ++ "` is out of range"
  | trailingInput rest => "unexpected trailing input `" ++ rest ++ "`"

/-- A refused line. -/
structure Rejection where
  line : String
  cause : Cause
  /-- The bytes of the line before the place of the refusal. -/
  offset : Nat
deriving BEq, DecidableEq, Inhabited, Repr

namespace Rejection

/-- What is wrong with the line, and where. -/
def detail (r : Rejection) : String :=
  r.cause.message ++ " at column " ++ toString (r.offset + 1)

/-- The message about a refused line. -/
def message (r : Rejection) : String := "Invalid command \"" ++ r.line ++ "\": " ++ r.detail

end Rejection

/-- Whether a character separates words. -/
def isGap (c : Char) : Bool := c == ' ' || c == '\t'

/-- The number of bytes of a text. -/
def byteLength : List Char → Nat
  | [] => 0
  | c :: cs => c.utf8Size + byteLength cs

/-- A refusal, with the text from its place on. -/
abbrev Refusal := Cause × List Char

/-- Skips one or more separators. -/
def skipGap (cs : List Char) : Except Refusal (List Char) :=
  match cs.takeWhile isGap with
  | [] => .error (.expectedBlank, cs)
  | _ => .ok (cs.dropWhile isGap)

/-- Skips one word. -/
def skipKeyword (word : String) (cs : List Char) : Except Refusal (List Char) :=
  if cs.takeWhile (fun c => !isGap c) = word.toList then .ok (cs.dropWhile fun c => !isGap c)
  else .error (.expectedKeyword word, cs)

/-- Reads a quoted text. -/
def readString (cs : List Char) : Except Refusal (String × List Char) :=
  match cs with
  | '"' :: body =>
    match body.dropWhile (· != '"') with
    | _ :: rest => .ok (.ofList (body.takeWhile (· != '"')), rest)
    | [] => .error (.unterminatedString, cs)
  | _ => .error (.expectedString, cs)

/-- The value of a digit. -/
def digitValue (c : Char) : Nat := c.toNat - '0'.toNat

/-- The value of some digits. -/
def decimalValue (ds : List Char) : Nat := ds.foldl (fun n c => 10 * n + digitValue c) 0

/-- Reads a threshold. -/
def readThreshold (cs : List Char) : Except Refusal (Threshold × List Char) :=
  match cs.takeWhile Char.isDigit with
  | [] => .error (.expectedInteger, cs)
  | ds =>
    if decimalValue ds < UInt64.size then
      .ok (.ofNat (decimalValue ds), cs.dropWhile Char.isDigit)
    else .error (.outOfRange (.ofList ds), cs)

/-- Makes sure that nothing is left. -/
def finished (c : Command) : List Char → Except Refusal Command
  | [] => .ok c
  | rest => .error (.trailingInput (.ofList rest), rest)

/-- Reads what follows the first word of a command. -/
def readRest (cs : List Char) (word : String) (rest : List Char) : Except Refusal Command :=
  if word = "help" || word = "h" then finished .help rest
  else if word = "exit" || word = "quit" || word = "q" then finished .exit rest
  else if word = "list" then finished .list rest
  else if word = "load" then do
    let rest ← skipGap rest
    let (path, rest) ← readString rest
    finished (.load path) rest
  else if word = "mc" || word = "many-constructors" then do
    let rest ← skipGap rest
    let rest ← skipKeyword "th" rest
    let rest ← skipGap rest
    let (threshold, rest) ← readThreshold rest
    finished (.manyConstructors threshold) rest
  else if word = "" then .error (.expectedCommand, cs)
  else .error (.unknownCommand word, cs)

/-- Reads a command; a refusal comes with the text from its place on. -/
def readChars (cs : List Char) : Except Refusal Command :=
  if cs.isEmpty then .error (.emptyCommand, cs)
  else readRest cs (.ofList (cs.takeWhile fun c => !isGap c)) (cs.dropWhile fun c => !isGap c)

/-- Reads a line. -/
def read (line : String) : Except Rejection Command :=
  match readChars line.toList with
  | .ok c => .ok c
  | .error (cause, rest) =>
    .error { line, cause, offset := byteLength line.toList - byteLength rest }

end Command

end TypeCensus
