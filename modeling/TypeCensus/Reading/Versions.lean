import TypeCensus.Reading.Stack

/-!
# Versions — readings of one text side by side

Every version stands on a node of the stack.  Versions that agree are merged, better ones push worse ones out, and
one that cannot go on is paused until it is clear whether a better one can.
-/

namespace TypeCensus.Reading

open TypeCensus.Grammar
open TypeCensus.Text (Source)

/-- Whether a version can go on. -/
inductive Phase where
  | active
  | paused
  | halted
deriving DecidableEq, Inhabited, Repr

/-- A version. -/
structure Version where
  node : Nat
  phase : Phase := .active
  /-- The weight of the stack when it was last broken. -/
  weightAtBreak : Nat := 0
  /-- The token that a paused version cannot read. -/
  pending : Option Tree := none
  /-- Where the version may go back to. -/
  places : Option (Array Stack.Place) := none
deriving Inhabited

/-- A text being read. -/
structure Parse where
  table : Table
  source : Source
  stack : Stack
  versions : Array Version
  finished : Option Tree := none
  /-- How often a version has come to the end. -/
  finishes : Nat := 0
  /-- The token scanned last, with the position it was scanned at. -/
  scanned : Option (Nat × Tree) := none
deriving Inhabited

namespace Parse

/-- The most versions that are kept. -/
def maxVersions : Nat := 6

/-- How many more versions may arise between two rounds. -/
def spareVersions : Nat := 4

/-- How much dearer a version may be that has just as much to go on. -/
def maxDifference : Nat := 1600

/-- How deep a broken version may go back. -/
def maxDepth : Nat := 16

/-- The beginning of a text. -/
def opening (table : Table) (source : Source) : Parse where
  table
  source
  stack := #[{ row := 1 }]
  versions := #[{ node := 0 }]

variable (r : Parse)

/-- The grammar of the text. -/
def grammar : FlatGrammar := r.table.grammar

/-- The node that a version stands on. -/
def top (v : Nat) : StackNode := r.stack[(r.versions[v]!).node]!

/-- The row that a version is in. -/
def rowOf (v : Nat) : Nat := (r.top v).row

/-- The actions of a row on a token. -/
def actions (row token : Nat) : Array Action := ((r.table.rows[row]!).actions)[token]!

/-- The actions of a row on a tree; none on a broken one. -/
def actionsOn (row : Nat) (t : Tree) : Array Action :=
  match t.info.kind with
  | .symbol (.token k) => r.actions row k
  | _ => #[]

/-- The row after a symbol. -/
def next (row : Nat) : Symbol → Nat
  | .token t =>
    match (r.actions row t).back? with
    | some .skip => row
    | some (.shift target _) => target
    | _ => 0
  | .phrase p => ((r.table.rows[row]!).gotos)[p]!

/-- A tree of the given children. -/
def tree (kind : Kind) (cs : List Tree) (pos : Nat) (shape : Nat := 0) : Tree :=
  Tree.ofChildren r.grammar r.source kind cs pos shape (r.table.shapes[shape]!).guises

/-- Changes a version. -/
def modifyVersion (v : Nat) (f : Version → Version) : Parse :=
  { r with versions := r.versions.modify v f }

/-- Drops a version. -/
def drop (v : Nat) : Parse := { r with versions := r.versions.eraseIdxIfInBounds v }

/-- Stops a version for good. -/
def halt (v : Nat) : Parse := r.modifyVersion v ({ · with phase := .halted })

/-- Puts version `v` in the place of version `w`. -/
def substitute (v w : Nat) : Parse :=
  if v = w then r
  else
    let old := r.versions[w]!
    let new := r.versions[v]!
    ({ r with versions := r.versions.set! w { new with places := new.places <|> old.places } } : Parse).drop v

/-- Pushes a tree, or a break, onto a version. -/
def push (v : Nat) (t : Option Tree) (row : Nat) : Parse :=
  let ver := r.versions[v]!
  let node := Stack.onTop r.stack ver.node t row
  let weightAtBreak := if t.isNone then node.weight else ver.weightAtBreak
  { r with
    stack := r.stack.push node
    versions := r.versions.set! v { ver with node := r.stack.size, weightAtBreak } }

/-- Whether two versions agree in all that lies ahead. -/
def canMerge (v w : Nat) : Bool :=
  let a := r.top v
  let b := r.top w
  (r.versions[v]!).phase == .active && (r.versions[w]!).phase == .active &&
    a.row == b.row && a.pos == b.pos && a.cost == b.cost

/-- Merges version `w` into version `v`, if they agree. -/
def merge? (v w : Nat) : Option Parse :=
  if r.canMerge v w then
    let self := (r.versions[v]!).node
    let stack := (r.top w).links.foldl (fun s l => Stack.addLink s.size s self l) r.stack
    let r : Parse := { r with stack }
    let r := if (r.top v).row = 0 then
        r.modifyVersion v ({ · with weightAtBreak := (r.top v).weight })
      else r
    some (r.drop w)
  else none

/-- Lowers the mark of the last break to what the stack of a version still holds. -/
def settle (v : Nat) : Parse :=
  let weight := (r.top v).weight
  r.modifyVersion v fun x => { x with weightAtBreak := min x.weightAtBreak weight }

/-- How much a version has read since it was last broken. -/
def progress (v : Nat) : Nat := (r.top v).weight - (r.versions[v]!).weightAtBreak

/-- What is broken on a version so far costs this much. -/
def brokenCost (v : Nat) : Nat :=
  let n := r.top v
  let fresh := n.row = 0 && (n.links[0]?).any (·.tree.isNone)
  n.cost + (if (r.versions[v]!).phase = .paused || fresh then Tree.brokenPrice else 0)

/-- What versions are compared by. -/
structure Standing where
  cost : Nat
  progress : Nat
  dynamic : Int
  broken : Bool
deriving Inhabited

/-- The standing of a version. -/
def standing (v : Nat) : Standing :=
  let paused := (r.versions[v]!).phase == .paused
  { cost := r.brokenCost v + (if paused then Tree.treePrice else 0)
    progress := r.progress v
    dynamic := (r.top v).dynamic
    broken := paused || r.rowOf v == 0 }

/-- The outcome of comparing two versions. -/
inductive Comparison where
  | takeLeft
  | preferLeft
  | neither
  | preferRight
  | takeRight
deriving DecidableEq, Inhabited, Repr

/-- Compares two standings. A dearer version is taken out at once when it is broken and the other is not, or
when the difference is large against the progress of the cheaper one. -/
def Standing.compare (a b : Standing) : Comparison :=
  if !a.broken && b.broken then
    if a.cost < b.cost then .takeLeft else .preferLeft
  else if a.broken && !b.broken then
    if b.cost < a.cost then .takeRight else .preferRight
  else if a.cost < b.cost then
    if (b.cost - a.cost) * (1 + a.progress) > maxDifference then .takeLeft else .preferLeft
  else if b.cost < a.cost then
    if (a.cost - b.cost) * (1 + b.progress) > maxDifference then .takeRight else .preferRight
  else if a.dynamic > b.dynamic then .preferLeft
  else if b.dynamic > a.dynamic then .preferRight
  else .neither

/-- Whether one of the listed versions beats version `v`, whose standing is given. -/
def isBeatenBy (v : Nat) (self : Standing) : List Nat → Parse → Bool × Parse
  | [], r => (false, r)
  | w :: ws, r =>
    if w = v || (r.versions[w]!).phase != .active || (r.top w).pos < (r.top v).pos then
      isBeatenBy v self ws r
    else
      let r := r.settle w
      match self.compare (r.standing w) with
      | .takeRight => (true, r)
      | .preferRight => if r.canMerge w v then (true, r) else isBeatenBy v self ws r
      | _ => isBeatenBy v self ws r

/-- Whether some other reading would beat version `v`, unbroken, at the given cost. -/
def isBeaten (v : Nat) (cost : Nat) : Bool × Parse :=
  if r.finished.any (·.price ≤ cost) then (true, r)
  else
    let r := r.settle v
    let self : Standing :=
      { cost, broken := false, dynamic := (r.top v).dynamic, progress := r.progress v }
    isBeatenBy v self (List.range r.versions.size) r

end Parse

end TypeCensus.Reading
