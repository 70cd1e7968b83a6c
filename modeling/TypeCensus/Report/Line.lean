import TypeCensus.Declaration

/-!
# Line — what a report says about one subject

A line reads `subject : value`, where the value is a count or the way in which a type is a singleton.
-/

namespace TypeCensus.Report

/-- The way in which a type is a singleton. -/
inductive Singleton where
  | publicField
  | staticFactory
  | singletonEnum
deriving BEq, DecidableEq, Inhabited, Repr

/-- The name of a kind of singleton. -/
def Singleton.label : Singleton → String
  | publicField => "publicField"
  | staticFactory => "staticFactory"
  | singletonEnum => "singletonEnum"

/-- What is said about a subject. -/
inductive Value where
  | count (n : Nat)
  | label (s : Singleton)
deriving BEq, DecidableEq, Inhabited, Repr

/-- The text of a value. -/
def Value.render : Value → String
  | count n => toString n
  | label s => s.label

/-- A line of a report. -/
structure Line where
  subject : String
  value : Value
deriving BEq, DecidableEq, Inhabited, Repr

/-- The text of a line. -/
def Line.render (l : Line) : String := l.subject ++ " : " ++ l.value.render

/-- The text of a report: every line ended by a line feed. -/
def render (ls : List Line) : String := String.join (ls.map fun l => l.render ++ "\n")

end TypeCensus.Report
