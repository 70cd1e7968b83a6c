import TypeCensus.Grammar.CharClass

/-!
# Pattern — what the words of a token class look like

Regular expressions over characters, and the shorthands that lexicons are written with.
-/

namespace TypeCensus.Grammar

/-- A regular expression over characters. -/
inductive Pattern where
  | nothing
  | oneOf (set : CharClass)
  | text (word : String)
  | seq (first second : Pattern)
  | alt (left right : Pattern)
  | many1 (body : Pattern)
deriving Inhabited, Repr

namespace Pattern

instance : Coe String Pattern := ⟨text⟩
instance : Coe CharClass Pattern := ⟨oneOf⟩

/-- The parts one after the other. -/
def all : List Pattern → Pattern
  | [] => nothing
  | [p] => p
  | p :: ps => seq p (all ps)

/-- One of the alternatives. -/
def any : List Pattern → Pattern
  | [] => nothing
  | [p] => p
  | p :: ps => alt p (any ps)

/-- The pattern or nothing. -/
def opt (p : Pattern) : Pattern := alt p nothing

/-- Any number of repetitions. -/
def many (p : Pattern) : Pattern := opt (many1 p)

/-- Exactly `n` repetitions. -/
def times (n : Nat) (p : Pattern) : Pattern := all (List.replicate n p)

/-- One or more `p`, with `s` between them. -/
def sepBy1 (p s : Pattern) : Pattern := seq p (many (seq s p))

end Pattern

end TypeCensus.Grammar
