import TypeCensus.Syntax.Node

/-!
# Fault — where a text could not be read

The fault of a node is the first broken or missing node that holds no other one.  The search enters only nodes that
are marked as faulty.  A broken node that reaches the end of the text is an unclosed construct; its beginning says
nothing, so its end is named.
-/

namespace TypeCensus.Syntax

open TypeCensus.Text (Point)

/-- What is wrong with a text. -/
inductive Fault where
  | unexpectedEnd (place : Point)
  | unreadable (place : Point)
  /-- No broken or missing node was found. -/
  | unknown
deriving BEq, DecidableEq, Inhabited, Repr

/-- A place as it is named in messages: counted from one, columns in bytes. -/
def describe (p : Point) : String := s!"line {p.line + 1}, column {p.column + 1}"

/-- The message of a fault. -/
def Fault.message : Fault → String
  | unexpectedEnd p => "unexpected end of input at " ++ describe p
  | unreadable p => "syntax error at " ++ describe p
  | unknown => "syntax error"

namespace Node

/-- Whether a node is itself broken or missing. -/
def isFault (n : Node) : Bool := n.info.broken || n.info.missing

mutual

/-- The first innermost broken or missing node of a node. -/
def innermostFault? : Node → Option Node
  | mk i cs =>
    match innermostFaultIn? cs with
    | some n => some n
    | none => if (mk i cs).isFault then some (mk i cs) else none

/-- The first innermost broken or missing node of some children. -/
def innermostFaultIn? : List Node → Option Node
  | [] => none
  | c :: cs =>
    if c.info.faulty || c.info.missing then
      match innermostFault? c with
      | some n => some n
      | none => innermostFaultIn? cs
    else innermostFaultIn? cs

end

/-- The fault of a node that is the whole of a text. -/
def fault (n : Node) (text : String) : Fault :=
  match n.innermostFault? with
  | none => .unknown
  | some m =>
    if m.info.broken && Text.trimmedSize text ≤ m.info.stop.byte then .unexpectedEnd m.info.stop
    else .unreadable m.info.start

end Node

end TypeCensus.Syntax
