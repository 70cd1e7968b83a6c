import TypeCensus.Text.Blank
import TypeCensus.Text.Source

/-!
# Node — concrete syntax

A node has a kind, the label of its place in its parent, its text with the points where that begins and ends, and
its children.  Where a text could not be read, nodes are broken or missing; `faulty` says whether that is so
anywhere in a node.
-/

namespace TypeCensus.Syntax

open TypeCensus.Text (Point)

/-- Everything about a node but its children. -/
structure Node.Info where
  kind : String
  /-- The node stands for a phrase or for a token that varies, not for a fixed sign. -/
  named : Bool
  label : Option String := none
  text : String := ""
  start : Point := {}
  stop : Point := {}
  /-- The node gathers text that could not be read. -/
  broken : Bool := false
  /-- The node was put in where a token was missing. -/
  missing : Bool := false
  /-- Something in the node is broken or missing. -/
  faulty : Bool := false
deriving BEq, DecidableEq, Inhabited, Repr

/-- A node of concrete syntax. -/
inductive Node where
  | mk (info : Node.Info) (children : List Node)
deriving Inhabited, Repr

namespace Node

/-- Everything about a node but its children. -/
def info : Node → Info
  | mk i _ => i

/-- The children of a node. -/
def children : Node → List Node
  | mk _ cs => cs

/-- The kind of a node. -/
def kind (n : Node) : String := n.info.kind

/-- The text of a node. -/
def text (n : Node) : String := n.info.text

/-- The words of a node's text, with single spaces between them. -/
def plainText (n : Node) : String := Text.plain n.text

/-- The children that are named. -/
def namedChildren (n : Node) : List Node := n.children.filter (·.info.named)

/-- The children with a label. -/
def labelled (n : Node) (label : String) : List Node := n.children.filter (·.info.label == some label)

/-- The first child with a label. -/
def labelled? (n : Node) (label : String) : Option Node := (n.labelled label).head?

/-- The text of the child labelled as the name. -/
def name? (n : Node) : Option String := (n.labelled? "name").map text

theorem sizeOf_lt_of_mem_children {n c : Node} (h : c ∈ n.children) : sizeOf c < sizeOf n := by
  obtain ⟨i, cs⟩ := n
  have := List.sizeOf_lt_of_mem (show c ∈ cs from h)
  simp only [mk.sizeOf_spec]
  omega

theorem mem_children_of_mem_namedChildren {n c : Node} (h : c ∈ n.namedChildren) :
    c ∈ n.children :=
  (List.mem_filter.1 h).1

theorem mem_children_of_labelled? {n c : Node} {l : String} (h : n.labelled? l = some c) :
    c ∈ n.children :=
  (List.mem_filter.1 (List.mem_of_mem_head? h)).1

end Node

end TypeCensus.Syntax
