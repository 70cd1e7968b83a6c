/-!
# Rule — right-hand sides in extended notation

A rule is built from literals, references, sequences, alternatives and repetitions.  A mark adds
what later decides between readings (precedence, side) or shapes the tree (label, guise).
-/

namespace TypeCensus.Grammar

/-- Which way a chain of operators of one precedence groups. -/
inductive Side where
  | left
  | right
deriving BEq, Hashable, DecidableEq, Inhabited, Repr

/-- A kind that a node is shown with in place of its own. -/
structure Guise where
  kind : String
  named : Bool
deriving BEq, Hashable, DecidableEq, Inhabited, Repr

/-- What a mark adds to the steps below it. -/
structure Mark where
  precedence : Option Int := none
  side : Option Side := none
  dynamic : Int := 0
  label : Option String := none
  guise : Option Guise := none
deriving BEq, Hashable, Inhabited, Repr

/-- A right-hand side. -/
inductive Rule where
  | nothing
  | lit (text : String)
  | ref (name : String)
  | seq (first second : Rule)
  | alt (left right : Rule)
  | many1 (body : Rule)
  | mark (m : Mark) (body : Rule)
deriving BEq, Hashable, Inhabited, Repr

namespace Rule

instance : Coe String Rule := ⟨lit⟩

/-- The parts one after the other. -/
def all : List Rule → Rule
  | [] => nothing
  | [r] => r
  | r :: rs => seq r (all rs)

/-- One of the alternatives. -/
def any : List Rule → Rule
  | [] => nothing
  | [r] => r
  | r :: rs => alt r (any rs)

/-- The rule or nothing. -/
def opt (r : Rule) : Rule := alt r nothing

/-- Any number of repetitions. -/
def many (r : Rule) : Rule := opt (many1 r)

/-- One or more `r`, with `s` between them. -/
def sepBy1 (r s : Rule) : Rule := seq r (many (seq s r))

/-- One or more `r`, with commas between them. -/
def commas1 (r : Rule) : Rule := sepBy1 r ","

/-- Any number of `r`, with commas between them. -/
def commas (r : Rule) : Rule := opt (commas1 r)

/-- Adds to the outermost mark of a rule. -/
def remark (f : Mark → Mark) : Rule → Rule
  | mark m r => mark (f m) r
  | r => mark (f {}) r

/-- Labels what the rule derives. -/
def labelled (name : String) (r : Rule) : Rule := remark (fun m => { m with label := name }) r

/-- Shows what the rule derives as a named node of another kind. -/
def shownAs (kind : String) (r : Rule) : Rule :=
  remark (fun m => { m with guise := some ⟨kind, true⟩ }) r

/-- Gives the rule a precedence. -/
def ranked (p : Int) (r : Rule) : Rule := remark (fun m => { m with precedence := some p }) r

/-- Gives the rule a precedence and makes it group to the left. -/
def leftAt (p : Int) (r : Rule) : Rule :=
  remark (fun m => { m with precedence := some p, side := some .left }) r

/-- Gives the rule a precedence and makes it group to the right. -/
def rightAt (p : Int) (r : Rule) : Rule :=
  remark (fun m => { m with precedence := some p, side := some .right }) r

/-- Weighs the rule when two readings of one text are both complete. -/
def weighing (p : Int) (r : Rule) : Rule := remark (fun m => { m with dynamic := p }) r

end Rule

end TypeCensus.Grammar
