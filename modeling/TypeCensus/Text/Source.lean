/-!
# Source — a text whose positions know their bytes, lines and columns

Positions are counted in characters.  Every position, the end included, has a point: how many bytes of UTF-8
stand before it, its line, and how many bytes of its line stand before it.
-/

namespace TypeCensus.Text

/-- A place in a text, counted from zero. -/
structure Point where
  byte : Nat := 0
  line : Nat := 0
  /-- The bytes before the place in its line. -/
  column : Nat := 0
deriving BEq, DecidableEq, Inhabited, Repr

/-- The point after a character. -/
def Point.after (p : Point) (c : Char) : Point :=
  if c = '\n' then ⟨p.byte + 1, p.line + 1, 0⟩
  else ⟨p.byte + c.utf8Size, p.line, p.column + c.utf8Size⟩

/-- The points before every character, and the one at the end. -/
def points (p : Point) : List Char → List Point
  | [] => [p]
  | c :: cs => p :: points (p.after c) cs

/-- A text with the points of its positions. -/
structure Source where
  text : String
  chars : Array Char
  points : Array Point
deriving Inhabited

namespace Source

/-- The source of a text. -/
def ofString (t : String) : Source where
  text := t
  chars := t.toList.toArray
  points := (Text.points {} t.toList).toArray

/-- The number of characters. -/
def size (s : Source) : Nat := s.chars.size

/-- The point of a position. -/
def point (s : Source) (i : Nat) : Point := s.points[i]!

/-- The byte offset of a position. -/
def byte (s : Source) (i : Nat) : Nat := (s.point i).byte

/-- The line of a position. -/
def line (s : Source) (i : Nat) : Nat := (s.point i).line

/-- The text from one position to another. -/
def slice (s : Source) (start stop : Nat) : String :=
  String.Pos.Raw.extract s.text ⟨s.byte start⟩ ⟨s.byte stop⟩

end Source

end TypeCensus.Text
