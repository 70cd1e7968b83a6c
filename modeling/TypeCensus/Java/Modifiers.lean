import TypeCensus.Declaration
import TypeCensus.Syntax.Node

/-!
# Modifiers — what the keywords before a member say

A member without an access keyword is public in an interface and open to its package elsewhere.  Fields of an
interface are static.  Constructors of an enum are private, whatever they say.
-/

namespace TypeCensus.Java

open TypeCensus.Syntax (Node)

/-- The kind of type that a member stands in. -/
inductive Host where
  | ordinary
  | interface
  | enum
deriving BEq, DecidableEq, Inhabited, Repr

/-- The keywords of a member that matter here. -/
structure Modifiers where
  visibility : Option Visibility := none
  isStatic : Bool := false
deriving BEq, DecidableEq, Inhabited, Repr

namespace Modifiers

/-- The visibility that a keyword gives. -/
def visibilityOf? : String → Option Visibility
  | "public" => some .publicly
  | "protected" => some .protectedly
  | "private" => some .privately
  | _ => none

/-- Adds a keyword; of several access keywords the last one counts. -/
def add (m : Modifiers) (keyword : String) : Modifiers where
  visibility := visibilityOf? keyword <|> m.visibility
  isStatic := m.isStatic || keyword == "static"

/-- The modifiers of a declaration. -/
def ofNode (n : Node) : Modifiers :=
  match n.namedChildren.find? (·.kind == "modifiers") with
  | some m => (m.children.map (·.kind)).foldl add {}
  | none => {}

/-- The visibility of a field or a method. -/
def memberVisibility (m : Modifiers) (h : Host) : Visibility :=
  m.visibility.getD (if h = .interface then .publicly else .package)

/-- The visibility of a constructor. -/
def constructorVisibility (m : Modifiers) (h : Host) : Visibility :=
  if h = .enum then .privately else m.memberVisibility h

/-- Whether a field is static. -/
def fieldIsStatic (m : Modifiers) (h : Host) : Bool := m.isStatic || h == .interface

end Modifiers

end TypeCensus.Java
