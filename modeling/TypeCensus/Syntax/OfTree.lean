import TypeCensus.Reading.Run
import TypeCensus.Syntax.Node

/-!
# OfTree — nodes from trees

Silent trees disappear: their children stand in their place.  A node has the label that its step of the phrase
gives it, or else the one of the silent tree it stood in; extras have none.
-/

namespace TypeCensus.Syntax

open TypeCensus.Grammar TypeCensus.Reading
open TypeCensus.Text (Source)

namespace Node

/-- How nodes of a kind are named, and whether they are named nodes. -/
def appearance (g : FlatGrammar) : Kind → String × Bool
  | .symbol (.token t) =>
    match g.lexicon.class? t with
    | some c => (c.name, c.form == .named)
    | none => ("end", false)
  | .symbol (.phrase p) => ((g.phrase p).name, (g.phrase p).form == .named)
  | _ => ("ERROR", true)

/-- The node of a tree without its children. -/
def infoOf (g : FlatGrammar) (s : Source) (label : Option String) (guise : Option Guise)
    (i : Tree.Info) : Info :=
  let (kind, named) := match guise with
    | some x => (x.kind, x.named)
    | none => appearance g i.kind
  { kind, named, label
    text := s.slice i.start i.stop
    start := s.point i.start
    stop := s.point i.stop
    broken := i.kind == .broken
    missing := i.missing
    faulty := i.missing || i.cost > 0 }

/-- The shape of a tree: broken text has none. -/
def shapeOf (t : Table) (i : Tree.Info) : Shape :=
  match i.kind with
  | .symbol _ => t.shapes[i.shape]!
  | _ => ⟨[], [], []⟩

mutual

/-- The nodes that a tree is shown as. -/
def ofTree (t : Table) (s : Source) (label : Option String) (guise : Option Guise) : Tree.Raw → List Node
  | .node i cs =>
    let shape := shapeOf t i
    if i.shown || guise.isSome then
      [mk (infoOf t.grammar s label guise i) (ofTrees t s shape.labels shape.guises none cs)]
    else ofTrees t s shape.labels shape.guises label cs

/-- The nodes that the children of a tree are shown as. -/
def ofTrees (t : Table) (s : Source) (labels : List (Option String)) (guises : List (Option Guise))
    (outer : Option String) : List Tree.Raw → List Node
  | [] => []
  | c :: cs =>
    if c.info.extra then ofTree t s none none c ++ ofTrees t s labels guises outer cs
    else
      ofTree t s (labels.head?.join <|> outer) guises.head?.join c ++
        ofTrees t s labels.tail guises.tail outer cs

end

/-- The node of a tree, whether or not it is shown. -/
def nodeOf (t : Table) (s : Source) (label : Option String) (guise : Option Guise) (x : Tree.Raw) : Node :=
  let shape := shapeOf t x.info
  mk (infoOf t.grammar s label guise x.info) (ofTrees t s shape.labels shape.guises none x.children)

/-- The node of a whole text. -/
def ofText (t : Table) (text : String) : Node :=
  let s := Source.ofString text
  nodeOf t s none none (read t s).1

end Node

end TypeCensus.Syntax
