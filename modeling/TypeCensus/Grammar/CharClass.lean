/-!
# CharClass — sets of characters

A character class is a list of inclusive ranges of code points.  `others` is the complement that
token patterns use: it leaves out NUL, so no run of text ever crosses a NUL character.
-/

namespace TypeCensus.Grammar

/-- A set of characters, as inclusive ranges of code points. -/
structure CharClass where
  ranges : List (Nat × Nat)
deriving BEq, Hashable, Inhabited, Repr

namespace CharClass

/-- The greatest code point. -/
def lastPoint : Nat := 0x10FFFF

/-- Exactly one character. -/
def single (c : Char) : CharClass := ⟨[(c.toNat, c.toNat)]⟩

/-- The characters from `a` to `b`. -/
def span (a b : Char) : CharClass := ⟨[(a.toNat, b.toNat)]⟩

/-- The characters of a text. -/
def ofText (s : String) : CharClass := ⟨s.toList.map fun c => (c.toNat, c.toNat)⟩

instance : Append CharClass := ⟨fun a b => ⟨a.ranges ++ b.ranges⟩⟩

/-- Membership of a code point. -/
def contains (s : CharClass) (n : Nat) : Bool := s.ranges.any fun r => r.1 ≤ n && n ≤ r.2

/-- The ranges from `start` on that a sorted list of ranges leaves free. -/
def gaps (start : Nat) : List (Nat × Nat) → List (Nat × Nat)
  | [] => if start ≤ lastPoint then [(start, lastPoint)] else []
  | (lo, hi) :: rest =>
    if start < lo then (start, lo - 1) :: gaps (max start (hi + 1)) rest
    else gaps (max start (hi + 1)) rest

/-- Every character outside the class, except NUL. -/
def others (s : CharClass) : CharClass :=
  ⟨gaps 1 (s.ranges.mergeSort fun a b => a.1 ≤ b.1)⟩

end CharClass

end TypeCensus.Grammar
