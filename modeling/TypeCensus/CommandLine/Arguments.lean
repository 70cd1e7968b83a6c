import TypeCensus.Report.Query

/-!
# Arguments — what the command line says

    --dir <DIRNAME>   --query <mc|mcp|st>   --threshold <VALUE>   --interactive   -h | --help   -V | --version

Arguments are read from left to right.  The value of an option is the next argument, or follows after `=`.  A value
that is given as an argument of its own is looked at when the next option begins, or at the end.  After `--` there are
only plain words, and none is expected.
-/

namespace TypeCensus

open Report (Threshold)

/-- What was given on the command line. -/
structure Arguments where
  dir? : Option String := none
  query? : Option String := none
  threshold? : Option Threshold := none
  interactive : Bool := false
deriving BEq, DecidableEq, Inhabited, Repr

namespace Arguments

/-- The threshold that holds; zero unless one is given. -/
def threshold (a : Arguments) : Threshold := a.threshold?.getD 0

/-- The options that take a value. -/
inductive ValueOption where
  | dir
  | query
  | threshold
deriving BEq, DecidableEq, Inhabited, Repr

namespace ValueOption

/-- The name of an option. -/
def name : ValueOption → String
  | dir => "dir"
  | query => "query"
  | threshold => "threshold"

/-- What stands for the value of an option in messages. -/
def placeholder : ValueOption → String
  | dir => "DIRNAME"
  | query => "mc|mcp|st"
  | threshold => "VALUE"

/-- An option as it stands in messages. -/
def shown (o : ValueOption) : String := "--" ++ o.name ++ " <" ++ o.placeholder ++ ">"

/-- The option with a name. -/
def ofName? (s : String) : Option ValueOption := [dir, query, threshold].find? (·.name == s)

end ValueOption

/-- The options without a value. -/
inductive Switch where
  | interactive
  | help
  | version
deriving BEq, DecidableEq, Inhabited, Repr

namespace Switch

/-- The name of a switch. -/
def name : Switch → String
  | interactive => "interactive"
  | help => "help"
  | version => "version"

/-- A switch as it stands in messages. -/
def shown (s : Switch) : String := "--" ++ s.name

/-- The switch with a name. -/
def ofName? (s : String) : Option Switch := [interactive, help, version].find? (·.name == s)

/-- The switch with a letter. -/
def ofLetter? : Char → Option Switch
  | 'h' => some help
  | 'V' => some version
  | _ => none

end Switch

/-- What is wrong with a number. -/
inductive NumberFault where
  | empty
  | invalidDigit
  | tooLarge
deriving BEq, DecidableEq, Inhabited, Repr

/-- The wording of a fault of a number. -/
def NumberFault.message : NumberFault → String
  | empty => "cannot parse integer from empty string"
  | invalidDigit => "invalid digit found in string"
  | tooLarge => "number too large to fit in target type"

/-- Why a command line is refused. -/
inductive Refusal where
  | unknown (arg : String)
  | missingValue (o : ValueOption)
  | invalidNumber (value : String) (fault : NumberFault)
  | repeatedOption (o : ValueOption)
  | repeatedSwitch (s : Switch)
  | unexpectedValue (value : String) (s : Switch)
deriving BEq, DecidableEq, Inhabited, Repr

/-- The wording of a refusal. -/
def Refusal.message : Refusal → String
  | unknown arg => "unexpected argument '" ++ arg ++ "' found"
  | missingValue o => "a value is required for '" ++ o.shown ++ "' but none was supplied"
  | invalidNumber value fault =>
    "invalid value '" ++ value ++ "' for '" ++ ValueOption.threshold.shown ++ "': " ++ fault.message
  | repeatedOption o => "the argument '" ++ o.shown ++ "' cannot be used multiple times"
  | repeatedSwitch s => "the argument '" ++ s.shown ++ "' cannot be used multiple times"
  | unexpectedValue value s =>
    "unexpected value '" ++ value ++ "' for '" ++ s.shown ++ "' found; no more were expected"

/-- Why the arguments are not read to their end. -/
inductive Stop where
  | help
  | version
  | refused (r : Refusal)
deriving BEq, DecidableEq, Inhabited, Repr

/-- Reads digits on; `n` is the value of those before. The first digit that is none, or makes the number too large,
is the fault. -/
def readDigits (n : Nat) : List Char → Except NumberFault Threshold
  | [] => .ok (.ofNat n)
  | c :: cs =>
    if !c.isDigit then .error .invalidDigit
    else
      let n := 10 * n + (c.toNat - '0'.toNat)
      if n < UInt64.size then readDigits n cs else .error .tooLarge

/-- Reads a threshold; a plus may stand before it. -/
def readThreshold (s : String) : Except NumberFault Threshold :=
  match s.toList with
  | [] => .error .empty
  | ['+'] => .error .invalidDigit
  | '+' :: ds => readDigits 0 ds
  | ds => readDigits 0 ds

/-- Sets an option; without a value, or given before, it is refused. -/
def set (a : Arguments) (o : ValueOption) (value : Option String) : Except Stop Arguments :=
  match value with
  | none => .error (.refused (.missingValue o))
  | some v =>
    match o with
    | .dir =>
      if a.dir?.isSome then .error (.refused (.repeatedOption o))
      else if v.isEmpty then .error (.refused (.missingValue o))
      else .ok { a with dir? := some v }
    | .query =>
      if a.query?.isSome then .error (.refused (.repeatedOption o))
      else .ok { a with query? := some v }
    | .threshold =>
      if a.threshold?.isSome then .error (.refused (.repeatedOption o))
      else
        match readThreshold v with
        | .ok t => .ok { a with threshold? := some t }
        | .error e => .error (.refused (.invalidNumber v e))

/-- Turns a switch on. -/
def turnOn (a : Arguments) : Switch → Except Stop Arguments
  | .help => .error .help
  | .version => .error .version
  | .interactive =>
    if a.interactive then .error (.refused (.repeatedSwitch .interactive))
    else .ok { a with interactive := true }

/-- An option that was named and is not set yet, with its value once that was read. -/
abbrev Pending := Option (ValueOption × Option String)

/-- Sets the pending option. -/
def settle (a : Arguments) : Pending → Except Stop Arguments
  | none => .ok a
  | some (o, value) => a.set o value

/-- What an argument looks like. -/
inductive Shape where
  /-- Only plain words follow. -/
  | separator
  | long (name : String) (value : Option String)
  | short (letter : Char)
  | word
deriving BEq, DecidableEq, Inhabited, Repr

/-- What an argument looks like. Of several letters after a dash the first one counts, as no letter may be followed by
another one. -/
def shapeOf (arg : String) : Shape :=
  match arg.toList with
  | ['-', '-'] => .separator
  | '-' :: '-' :: cs =>
    let name := String.ofList (cs.takeWhile (· != '='))
    match cs.dropWhile (· != '=') with
    | [] => .long name none
    | _ :: value => .long name (some (.ofList value))
  | '-' :: c :: _ => .short c
  | _ => .word

/-- Reads the arguments that are left. -/
def readFrom (a : Arguments) (pending : Pending) : List String → Except Stop Arguments
  | [] => a.settle pending
  | arg :: rest =>
    match shapeOf arg with
    | .separator =>
      match rest with
      | [] => a.settle pending
      | word :: _ => .error (.refused (.unknown word))
    | .long name value =>
      match ValueOption.ofName? name, Switch.ofName? name, value with
      | some o, _, none => do
        let a ← a.settle pending
        readFrom a (some (o, none)) rest
      | some o, _, some v => do
        let a ← a.settle pending
        let a ← a.set o (some v)
        readFrom a none rest
      | none, some s, none => do
        let a ← a.settle pending
        let a ← a.turnOn s
        readFrom a none rest
      | none, some s, some v => .error (.refused (.unexpectedValue v s))
      | none, none, _ => .error (.refused (.unknown ("--" ++ name)))
    | .short letter =>
      match Switch.ofLetter? letter with
      | some s => do
        let a ← a.settle pending
        let a ← a.turnOn s
        readFrom a none rest
      | none => .error (.refused (.unknown ("-" ++ letter.toString)))
    | .word =>
      match pending with
      | some (o, none) => readFrom a (some (o, some arg)) rest
      | _ => .error (.refused (.unknown arg))

/-- Reads a command line. -/
def read (args : List String) : Except Stop Arguments := readFrom {} none args

end Arguments

end TypeCensus
