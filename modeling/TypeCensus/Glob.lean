/-!
# Glob — patterns for paths

In a pattern `?` stands for one character, `*` for any text, `[...]` and `[!...]` for one character of a set or
outside it, and a component `**` for any number of components.  A path matches as a whole; `?` and `*` do not stop at
slashes.
-/

namespace TypeCensus

namespace Glob

/-- A part of a pattern. -/
inductive Part where
  | char (c : Char)
  | anyChar
  | anyText
  | anyComponents
  | oneOf (ranges : List (Char × Char))
  | noneOf (ranges : List (Char × Char))
deriving BEq, DecidableEq, Inhabited, Repr

/-- What is wrong with a pattern. -/
inductive Reason where
  | tooManyStars
  | partialComponent
  | brokenSet
deriving BEq, DecidableEq, Inhabited, Repr

/-- The wording of a reason. -/
def Reason.message : Reason → String
  | tooManyStars => "wildcards are either regular `*` or recursive `**`"
  | partialComponent => "recursive wildcards must form a single path component"
  | brokenSet => "invalid range pattern"

/-- An error in a pattern, with the number of characters before its place. -/
structure Error where
  position : Nat
  reason : Reason
deriving BEq, DecidableEq, Inhabited, Repr

/-- The message of an error. -/
def Error.message (e : Error) : String :=
  "Pattern syntax error near position " ++ toString e.position ++ ": " ++ e.reason.message

/-- The ranges of the text of a set; a dash between two characters spans a range. -/
def ranges : List Char → List (Char × Char)
  | a :: '-' :: b :: rest => (a, b) :: ranges rest
  | c :: rest => (c, c) :: ranges rest
  | [] => []

/-- Reads the set after an opening bracket: its part and what follows it. The first character of a set is never its
end. -/
def readSet : List Char → Option (Part × List Char)
  | '!' :: first :: rest =>
    match rest.dropWhile (· != ']') with
    | _ :: after => some (.noneOf (ranges (first :: rest.takeWhile (· != ']'))), after)
    | [] => none
  | '!' :: [] => none
  | first :: rest =>
    match rest.dropWhile (· != ']') with
    | _ :: after => some (.oneOf (ranges (first :: rest.takeWhile (· != ']'))), after)
    | [] => none
  | [] => none

/-- Adds the part for `**`, unless one already ends the pattern and is not all of it. -/
def addComponents (parts : List Part) : List Part :=
  match parts with
  | .anyComponents :: _ :: _ => parts
  | _ => .anyComponents :: parts

/-- Reads a pattern on. The parts read come in reverse, `before` is the character before the rest, and `position` the
number of characters read; `fuel` bounds the length of the rest. -/
def readFrom : Nat → List Part → Option Char → Nat → List Char → Except Error (List Part)
  | 0, parts, _, _, _ => .ok parts.reverse
  | _ + 1, parts, _, _, [] => .ok parts.reverse
  | fuel + 1, parts, before, position, c :: cs =>
    if c = '?' then readFrom fuel (.anyChar :: parts) (some c) (position + 1) cs
    else if c = '*' then
      match cs.takeWhile (· == '*') with
      | [] => readFrom fuel (.anyText :: parts) (some c) (position + 1) cs
      | [_] =>
        match cs.tail with
        | [] =>
          if before.all (· == '/') then .ok (addComponents parts).reverse
          else .error ⟨position - 1, .partialComponent⟩
        | d :: rest =>
          if !before.all (· == '/') then .error ⟨position - 1, .partialComponent⟩
          else if d = '/' then readFrom fuel (addComponents parts) (some d) (position + 3) rest
          else .error ⟨position + 2, .partialComponent⟩
      | _ => .error ⟨position + 2, .tooManyStars⟩
    else if c = '[' then
      match readSet cs with
      | some (part, rest) =>
        readFrom fuel (part :: parts) (some ']') (position + 1 + (cs.length - rest.length)) rest
      | none => .error ⟨position, .brokenSet⟩
    else readFrom fuel (.char c :: parts) (some c) (position + 1) cs

/-- Whether a character is in one of the ranges. -/
def inRanges (c : Char) (rs : List (Char × Char)) : Bool := rs.any fun r => r.1 ≤ c && c ≤ r.2

/-- Whether a part that stands for one character stands for this one. -/
def Part.accepts (p : Part) (c : Char) : Bool :=
  match p with
  | char d => c == d
  | anyChar => true
  | oneOf rs => inRanges c rs
  | noneOf rs => !inRanges c rs
  | anyText | anyComponents => false

/-- Whether `rest` matches some end of the text. -/
def matchesSomeEnd (rest : List Char → Bool) : List Char → Bool
  | [] => rest []
  | c :: cs => rest (c :: cs) || matchesSomeEnd rest cs

/-- Whether `rest` matches the text after some slash, or nothing at all. -/
def matchesAfterSlash (rest : List Char → Bool) : List Char → Bool
  | [] => rest []
  | c :: cs => (c == '/' && rest cs) || matchesAfterSlash rest cs

/-- Whether the parts match a text as a whole. -/
def matchParts : List Part → List Char → Bool
  | [], cs => cs.isEmpty
  | .anyText :: ps, cs => matchesSomeEnd (matchParts ps) cs
  | .anyComponents :: ps, cs => matchParts ps cs || matchesAfterSlash (matchParts ps) cs
  | p :: ps, c :: cs => p.accepts c && matchParts ps cs
  | _ :: _, [] => false

end Glob

/-- A pattern for paths. -/
structure Glob where
  parts : List Glob.Part
deriving BEq, DecidableEq, Inhabited, Repr

namespace Glob

/-- Reads a pattern. -/
def ofString (s : String) : Except Error Glob :=
  (readFrom (s.length + 1) [] none 0 s.toList).map Glob.mk

/-- Whether a path matches. -/
def matchesPath (g : Glob) (path : String) : Bool := matchParts g.parts path.toList

end Glob

end TypeCensus
