/-!
# BitSet — finite sets of small numbers

A set of tokens, or of letters, is the natural number whose binary digits are its membership table.
-/

namespace TypeCensus.Grammar

/-- A finite set of numbers. -/
structure BitSet where
  bits : Nat
deriving BEq, Hashable, Inhabited, Repr

namespace BitSet

/-- The empty set. -/
def empty : BitSet := ⟨0⟩

/-- The set of one number. -/
def single (t : Nat) : BitSet := ⟨1 <<< t⟩

/-- Membership. -/
def contains (s : BitSet) (t : Nat) : Bool := s.bits.testBit t

/-- Members of either set. -/
def union (s t : BitSet) : BitSet := ⟨s.bits ||| t.bits⟩

/-- The set with one more member. -/
def insert (s : BitSet) (t : Nat) : BitSet := s.union (single t)

/-- Whether the two sets share a member. -/
def meets (s t : BitSet) : Bool := s.bits &&& t.bits != 0

/-- Whether the set has no member. -/
def isEmpty (s : BitSet) : Bool := s.bits == 0

/-- The set of the listed numbers. -/
def ofList (ts : List Nat) : BitSet := ts.foldl insert empty

/-- The members below `bound`, in increasing order. -/
def toList (s : BitSet) (bound : Nat) : List Nat := (List.range bound).filter s.contains

end BitSet

end TypeCensus.Grammar
