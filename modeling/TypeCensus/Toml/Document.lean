import TypeCensus.Toml.Quoted
import TypeCensus.Toml.Value

/-!
# Document — settings as they are written

A document is lines: `key = value`, a header `[key]` or `[[key]]`, a comment after `#`, or nothing.  Arrays and tables
in braces may go over several lines and end in a comma.  A carriage return stands only before a line feed and says
nothing; other control characters stand nowhere.
-/

namespace TypeCensus.Toml

/-- How deep arrays and tables in braces may stand in each other. -/
def maxDepth : Nat := 80

/-- The text without blanks before it. -/
def skipGap (cs : List Char) : List Char := cs.dropWhile isGap

/-- The text without blanks, line feeds and comments before it. -/
def skipLines (inComment : Bool) : List Char → List Char
  | [] => []
  | c :: cs =>
    if c = '\n' then skipLines false cs
    else if inComment || isGap c then skipLines inComment cs
    else if c = '#' then skipLines true cs
    else c :: cs

/-- What follows a line that is finished here. -/
def endLine (cs : List Char) : Option (List Char) :=
  match skipGap cs with
  | [] | '\n' :: _ | '#' :: _ => some cs
  | _ => none

/-- Whether a character may stand in a key without quotes. -/
def isKeyChar (c : Char) : Bool := c.isAlphanum || c == '_' || c == '-'

/-- Reads one key. -/
def readKey (cs : List Char) : Option (String × List Char) :=
  match cs with
  | '"' :: '"' :: '"' :: _ | '\'' :: '\'' :: '\'' :: _ => none
  | '"' :: _ | '\'' :: _ => readLineText cs
  | _ =>
    match cs.takeWhile isKeyChar with
    | [] => none
    | key => some (.ofList key, cs.dropWhile isKeyChar)

/-- Reads keys with dots between them: all but the last one, the last one, and what follows. -/
def readKeys : Nat → List Char → Option (List String × String × List Char)
  | 0, _ => none
  | fuel + 1, cs =>
    (readKey cs).bind fun (k, rest) =>
      match skipGap rest with
      | '.' :: rest => (readKeys fuel (skipGap rest)).map fun (ks, l, rest) => (k :: ks, l, rest)
      | rest => some ([], k, rest)

/-- Whether a character may stand in a value without quotes. -/
def isScalarChar (c : Char) : Bool := !(isGap c || ",[]{}=#\n".toList.contains c)

/-- Takes the text of a value without quotes. A single space may stand between a day and a time. -/
def cutScalar (cs : List Char) : List Char × List Char :=
  let text := cs.takeWhile isScalarChar
  match cs.dropWhile isScalarChar with
  | ' ' :: d :: rest =>
    if isDay text && d.isDigit then
      (text ++ ' ' :: (d :: rest).takeWhile isScalarChar, (d :: rest).dropWhile isScalarChar)
    else (text, ' ' :: d :: rest)
  | rest => (text, rest)

/-- The value of a text without quotes. -/
def scalar? (cs : List Char) : Option Value :=
  if cs = "true".toList then some (.boolean true)
  else if cs = "false".toList then some (.boolean false)
  else if isNumber cs then some (.number (.ofList cs))
  else if isDate cs then some (.date (.ofList cs))
  else none

mutual

/-- Reads a value. The fuel bounds the steps, the depth what may still stand in each other. -/
def readValue : Nat → Nat → List Char → Option (Value × List Char)
  | 0, _, _ => none
  | fuel + 1, depth, cs =>
    match cs with
    | '"' :: _ | '\'' :: _ => (readText cs).map fun (s, rest) => (.string s, rest)
    | '[' :: rest =>
      if depth = 0 then none
      else
        (readItems fuel (depth - 1) [] (skipLines false rest)).map fun (vs, rest) =>
          (.array vs, rest)
    | '\x7b' :: rest =>
      if depth = 0 then none
      else
        (readEntries fuel (depth - 1) [] (skipLines false rest)).map fun (t, rest) =>
          (.table .inline t, rest)
    | _ => let (text, rest) := cutScalar cs; (scalar? text).map fun v => (v, rest)

/-- Reads the items of an array up to its end; those read come in reverse. -/
def readItems : Nat → Nat → List Value → List Char → Option (List Value × List Char)
  | 0, _, _, _ => none
  | fuel + 1, depth, vs, cs =>
    match cs with
    | ']' :: rest => some (vs.reverse, rest)
    | _ =>
      (readValue fuel depth cs).bind fun (v, rest) =>
        match skipLines false rest with
        | ',' :: rest => readItems fuel depth (v :: vs) (skipLines false rest)
        | ']' :: rest => some ((v :: vs).reverse, rest)
        | _ => none

/-- Reads the entries of a table in braces up to its end. -/
def readEntries : Nat → Nat → Table → List Char → Option (Table × List Char)
  | 0, _, _, _ => none
  | fuel + 1, depth, t, cs =>
    match cs with
    | '\x7d' :: rest => some (t, rest)
    | _ =>
      (readEntry fuel depth cs).bind fun (ks, k, v, rest) =>
        (t.add ks k v .inline).bind fun t =>
          match skipLines false rest with
          | ',' :: rest => readEntries fuel depth t (skipLines false rest)
          | '\x7d' :: rest => some (t, rest)
          | _ => none

/-- Reads keys, an equals sign and a value. -/
def readEntry : Nat → Nat → List Char → Option (List String × String × Value × List Char)
  | 0, _, _ => none
  | fuel + 1, depth, cs =>
    (readKeys (cs.length + 1) cs).bind fun (ks, k, rest) =>
      match rest with
      | '=' :: rest =>
        (readValue fuel depth (skipGap rest)).map fun (v, rest) => (ks, k, v, rest)
      | _ => none

end

/-- Reads the lines of a document into a table, where some keys lead to the table of the last header. -/
def readLines : Nat → List String → Table → List Char → Option Table
  | 0, _, _, _ => none
  | fuel + 1, path, t, cs =>
    match skipLines false cs with
    | [] => some t
    | '[' :: '[' :: rest =>
      (readKeys (rest.length + 1) (skipGap rest)).bind fun (ks, k, rest) =>
        match rest with
        | ']' :: ']' :: rest =>
          (endLine rest).bind fun rest =>
            (t.openItem ks k).bind fun t => readLines fuel (ks ++ [k]) t rest
        | _ => none
    | '[' :: rest =>
      (readKeys (rest.length + 1) (skipGap rest)).bind fun (ks, k, rest) =>
        match rest with
        | ']' :: rest =>
          (endLine rest).bind fun rest =>
            (t.openTable ks k).bind fun t => readLines fuel (ks ++ [k]) t rest
        | _ => none
    | cs =>
      (readEntry (2 * cs.length + 2) maxDepth cs).bind fun (ks, k, v, rest) =>
        (endLine rest).bind fun rest =>
          (t.addUnder path ks k v).bind fun t => readLines fuel path t rest

/-- The text without a byte order mark at its beginning. -/
def dropMark : List Char → List Char
  | '\uFEFF' :: cs => cs
  | cs => cs

/-- The text with a line feed for each carriage return and line feed. -/
def plainLines : List Char → List Char
  | '\r' :: '\n' :: cs => '\n' :: plainLines cs
  | c :: cs => c :: plainLines cs
  | [] => []

/-- Whether a character may stand in a document. -/
def isDocumentChar (c : Char) : Bool := c == '\t' || c == '\n' || (' ' ≤ c && c != '\x7f')

/-- Reads a document. -/
def read? (text : String) : Option Table :=
  let cs := plainLines (dropMark text.toList)
  if cs.all isDocumentChar then readLines (cs.length + 1) [] [] cs else none

end TypeCensus.Toml
