/-!
# Sink — a place for output that may fill up

A sink takes bytes up to its capacity.  What does not fit is cut off, and writing fails.
-/

namespace TypeCensus

/-- The bytes written so far, and how many more fit; without a limit all do. -/
structure Sink where
  written : List UInt8 := []
  room : Option Nat := none
deriving BEq, DecidableEq, Inhabited, Repr

namespace Sink

/-- The bytes of a text. -/
def bytesOf (text : String) : List UInt8 := text.toUTF8.data.toList

/-- Writes some bytes, as many as fit; says whether all did. -/
def writeBytes (s : Sink) (bs : List UInt8) : Sink × Bool :=
  match s.room with
  | none => (⟨s.written ++ bs, none⟩, true)
  | some n => (⟨s.written ++ bs.take n, some (n - bs.length)⟩, bs.length ≤ n)

/-- Writes a text. -/
def write (s : Sink) (text : String) : Sink × Bool := s.writeBytes (bytesOf text)

/-- Writes texts, each ended by a line feed, until one does not fit. -/
def writeLines (s : Sink) : List String → Sink × Bool
  | [] => (s, true)
  | l :: ls =>
    match s.write (l ++ "\n") with
    | (s, true) => writeLines s ls
    | (s, false) => (s, false)

end Sink

end TypeCensus
