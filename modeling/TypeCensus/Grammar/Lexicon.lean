import TypeCensus.Grammar.Pattern

/-!
# Lexicon — the token classes of a language

Token number `0` is the end of the text; class `i` of a lexicon is token `i + 1`.  Of two classes that match
the same text the one of greater weight wins, then the one of greater rank, then the earlier one.
-/

namespace TypeCensus.Grammar

/-- How the nodes of a symbol appear in a finished tree. -/
inductive Form where
  | named
  | plain
  | silent
deriving BEq, DecidableEq, Inhabited, Repr

/-- A class of tokens. -/
structure TokenClass where
  name : String
  form : Form
  pattern : Pattern
  /-- Decides first between classes that match the same text. -/
  weight : Int := 0
  /-- No blank may stand before a token of the class. -/
  glued : Bool := false
  /-- The class matches nearly everything, so it is not looked for while broken text is skipped. -/
  elusive : Bool := false
deriving Inhabited, Repr

namespace TokenClass

/-- The word, when the class has only one. -/
def literal? (c : TokenClass) : Option String :=
  match c.pattern with
  | .text w => some w
  | _ => none

/-- A literal outranks a pattern, and a class that allows no blank before it outranks one that does. -/
def rank (c : TokenClass) : Nat :=
  (if c.literal?.isSome then 2 else 0) + (if c.glued then 1 else 0)

end TokenClass

/-- The token classes of a language, its blanks, and the class that its keywords are cut from. -/
structure Lexicon where
  classes : Array TokenClass
  blanks : CharClass
  word : String
deriving Inhabited, Repr

namespace Lexicon

/-- The number of tokens, the end of the text included. -/
def size (x : Lexicon) : Nat := x.classes.size + 1

/-- The token of a class with the given name. -/
def token? (x : Lexicon) (name : String) : Option Nat :=
  (x.classes.findIdx? (·.name == name)).map (· + 1)

/-- The token that keywords are cut from. -/
def wordToken (x : Lexicon) : Nat := (x.token? x.word).getD 0

/-- The class of a token other than the end of the text. -/
def class? (x : Lexicon) (t : Nat) : Option TokenClass :=
  match t with
  | 0 => none
  | n + 1 => x.classes[n]?

/-- The tokens in the order in which a missing one is guessed: words first. -/
def guesses (x : Lexicon) : List Nat :=
  x.wordToken :: ((List.range x.size).filter fun t => t != 0 && t != x.wordToken)

end Lexicon

end TypeCensus.Grammar
