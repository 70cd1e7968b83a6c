import TypeCensus.Ignore.Wildcard
import TypeCensus.Text.Blank

/-!
# Rules — what an ignore file says

Every line of an ignore file but blank ones and comments is a rule: it ignores what its pattern matches or, after `!`,
keeps it.  A rule that ends in a slash is about directories only.  A rule without an inner slash matches at any depth.
Of all rules of a file that match, the last one decides.
-/

namespace TypeCensus.Ignore

/-- What a rule says about what it matches. -/
inductive Verdict where
  | ignore
  | keep
deriving BEq, DecidableEq, Inhabited, Repr

/-- A rule of an ignore file. -/
structure Rule where
  parts : List Part
  verdict : Verdict
  onlyDirs : Bool
deriving Inhabited

/-- The text after another one that it begins with. -/
def after? (start s : List Char) : Option (List Char) :=
  if start.isPrefixOf s then some (s.drop start.length) else none

/-- The text after another one, if it begins with that, and else all of it. -/
def afterOrAll (start s : List Char) : List Char := (after? start s).getD s

/-- The pattern of a line whose marks have been taken off. -/
def patternOf (anchored : Bool) (line : List Char) : List Char :=
  let free := !anchored && !line.contains '/' && line != ['*', '*']
  let line := if free then "**/".toList ++ line else line
  if "/**".toList.isSuffixOf line then line ++ "/*".toList else line

/-- The rule of a line whose blanks at the end have been taken off. -/
def ruleOf? (line : List Char) : Option Rule :=
  let escaped := "\\!".toList.isPrefixOf line || "\\#".toList.isPrefixOf line
  let kept := !escaped && line.head? = some '!'
  let line := if escaped || kept then line.tail else line
  let anchored := !escaped && line.head? = some '/'
  let line := if anchored then line.tail else line
  let onlyDirs := line.getLast? = some '/'
  let line := if onlyDirs then line.dropLast else line
  let line := if onlyDirs && line.getLast? = some '\\' then line.dropLast else line
  (readPattern (.ofList (patternOf anchored line))).map fun parts =>
    { parts, verdict := if kept then .keep else .ignore, onlyDirs }

/-- The rule of a line, if it is one and its pattern is well formed. -/
def readLine? (line : List Char) : Option Rule :=
  if line.head? = some '#' then none
  else
    let line := if "\\ ".toList.isSuffixOf line then line else Text.trimEnd line
    if line.isEmpty then none else ruleOf? line

/-- The lines of some bytes, each without its line feed and a carriage return right before that. -/
def linesOf (bs : List UInt8) : List (List UInt8) :=
  let strip (l : List UInt8) := if l.getLast? = some 13 then l.dropLast else l
  match (bs.splitOn 10).reverse with
  | [] => []
  | last :: ls => (ls.map strip).reverse ++ (if last.isEmpty then [] else [last])

/-- The texts of lines up to the first that is not valid UTF-8. -/
def decoded : List (List UInt8) → List (List Char)
  | [] => []
  | l :: ls =>
    match String.fromUTF8? ⟨l.toArray⟩ with
    | some s => s.toList :: decoded ls
    | none => []

/-- The lines with byte order marks at the very beginning taken off. -/
def withoutMark : List (List Char) → List (List Char)
  | [] => []
  | l :: ls => l.dropWhile (· == '\ufeff') :: ls

/-- The rules of an ignore file. -/
def readRules (content : List UInt8) : List Rule :=
  (withoutMark (decoded (linesOf content))).filterMap readLine?

/-- The verdict of the last of some rules that matches. -/
def verdictOf (rules : List Rule) (path : List UInt8) (isDir : Bool) : Option Verdict :=
  (rules.reverse.find? fun r => (!r.onlyDirs || isDir) && matchesBytes r.parts path).map (·.verdict)

end TypeCensus.Ignore
