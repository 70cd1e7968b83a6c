import TypeCensus.Toml.Scalar

/-!
# Quoted — texts in quotes

A text in double quotes has escapes, one in single quotes has none.  Three quotes begin a text of several lines, whose
first line feed does not count; up to two quotes may stand right before the three that end it.  At the end of a line
of such a text a backslash takes away all blanks and line feeds up to the next other character.
-/

namespace TypeCensus.Toml

/-- Whether a character separates words within a line. -/
def isGap (c : Char) : Bool := c == ' ' || c == '\t'

/-- What is under way at a place of a text with escapes. -/
inductive Escape where
  | ordinary
  /-- A backslash was read. -/
  | opened
  /-- So many digits of a code point are to come; its value so far is known. -/
  | digits (left value : Nat)
  /-- Blanks after a backslash are taken away; a line feed was among them, or not yet. -/
  | blanks (ended : Bool)
deriving BEq, DecidableEq, Inhabited, Repr

/-- The character with a code point. -/
def charOf? (n : Nat) : Option Char := if n.isValidChar then some (.ofNat n) else none

/-- Reads a character outside of escapes. -/
def readOrdinary (c : Char) : List Char × Escape := if c = '\\' then ([], .opened) else ([c], .ordinary)

/-- The character that one letter after a backslash stands for. -/
def escaped? : Char → Option Char
  | 'b' => some '\x08'
  | 't' => some '\t'
  | 'n' => some '\n'
  | 'f' => some '\x0c'
  | 'r' => some '\r'
  | 'e' => some '\x1b'
  | '"' => some '"'
  | '\\' => some '\\'
  | _ => none

/-- The number of digits of a code point that a letter after a backslash announces. -/
def codeLength? : Char → Option Nat
  | 'x' => some 2
  | 'u' => some 4
  | 'U' => some 8
  | _ => none

/-- Reads a character: the text that it completes and what is under way then. -/
def Escape.next (c : Char) : Escape → Option (List Char × Escape)
  | ordinary => some (readOrdinary c)
  | opened =>
    match escaped? c, codeLength? c with
    | some d, _ => some ([d], ordinary)
    | _, some n => some ([], digits n 0)
    | _, _ =>
      if isGap c then some ([], blanks false)
      else if c = '\n' then some ([], blanks true)
      else none
  | digits left value =>
    (hexValue? c).bind fun d =>
      let value := 16 * value + d
      if left ≤ 1 then (charOf? value).map fun e => ([e], ordinary) else some ([], digits (left - 1) value)
  | blanks ended =>
    if isGap c then some ([], blanks ended)
    else if c = '\n' then some ([], blanks true)
    else if ended then some (readOrdinary c)
    else none

/-- Resolves the escapes of a text. -/
def unescape : Escape → List Char → Option (List Char)
  | .ordinary, [] | .blanks true, [] => some []
  | _, [] => none
  | e, c :: cs => (e.next c).bind fun (out, e) => (unescape e cs).map (out ++ ·)

/-- Cuts a text at the quote that ends it on its own line. -/
def cutLine (quote : Char) (hasEscapes : Bool) : List Char → Option (List Char × List Char)
  | [] | '\n' :: _ => none
  | c :: cs =>
    if c = quote then some ([], cs)
    else if hasEscapes && c = '\\' then
      match cs with
      | [] | '\n' :: _ => none
      | d :: cs => (cutLine quote hasEscapes cs).map fun (text, rest) => (c :: d :: text, rest)
    else (cutLine quote hasEscapes cs).map fun (text, rest) => (c :: text, rest)

/-- Up to two quotes at the beginning of a text, and what follows. -/
def extraQuotes (quote : Char) (cs : List Char) : List Char × List Char :=
  let n := min 2 (cs.takeWhile (· == quote)).length
  (cs.take n, cs.drop n)

/-- Cuts a text at the three quotes that end it. -/
def cutLines (quote : Char) (hasEscapes : Bool) : List Char → Option (List Char × List Char)
  | [] => none
  | c :: cs =>
    if c = quote && cs.take 2 == [quote, quote] then some (extraQuotes quote (cs.drop 2))
    else if hasEscapes && c = '\\' then
      match cs with
      | [] => none
      | d :: cs => (cutLines quote hasEscapes cs).map fun (text, rest) => (c :: d :: text, rest)
    else (cutLines quote hasEscapes cs).map fun (text, rest) => (c :: text, rest)

/-- The text without a line feed at its beginning. -/
def dropLineFeed : List Char → List Char
  | '\n' :: cs => cs
  | cs => cs

/-- Reads a text that a single quote mark of either kind begins. -/
def readLineText : List Char → Option (String × List Char)
  | '"' :: cs =>
    (cutLine '"' true cs).bind fun (text, rest) =>
      (unescape .ordinary text).map fun text => (.ofList text, rest)
  | '\'' :: cs => (cutLine '\'' false cs).map fun (text, rest) => (.ofList text, rest)
  | _ => none

/-- Reads a text in quotes of any kind. -/
def readText : List Char → Option (String × List Char)
  | '"' :: '"' :: '"' :: cs =>
    (cutLines '"' true cs).bind fun (text, rest) =>
      (unescape .ordinary (dropLineFeed text)).map fun text => (.ofList text, rest)
  | '\'' :: '\'' :: '\'' :: cs =>
    (cutLines '\'' false cs).map fun (text, rest) => (.ofList (dropLineFeed text), rest)
  | cs => readLineText cs

end TypeCensus.Toml
