import TypeCensus.Reading.Tree

/-!
# Stack — many stacks in one graph

A node of the graph is a state on top of one or more links, each with a tree and the node below it.  A path from a
node to the bottom is a stack; stacks that meet in one state at one position share their nodes from there on.
-/

namespace TypeCensus.Reading

/-- A tree, or a break, on top of a node. -/
structure Link where
  below : Nat
  tree : Option Tree
deriving Inhabited

/-- A state on top of links. -/
structure StackNode where
  row : Nat
  links : Array Link := #[]
  pos : Nat := 0
  cost : Nat := 0
  /-- How many nodes have been read down to the bottom. -/
  weight : Nat := 0
  dynamic : Int := 0
deriving Inhabited

/-- The nodes of the graph. -/
abbrev Stack := Array StackNode

namespace Stack

/-- The most links of one node. -/
def maxLinks : Nat := 8

/-- The most walkers at a time. -/
def maxWalkers : Nat := 64

/-- A node with one link. -/
def onTop (s : Stack) (below : Nat) (tree : Option Tree) (row : Nat) : StackNode :=
  let b := s[below]!
  match tree with
  | none => { b with row, links := #[⟨below, none⟩] }
  | some t =>
    { row, links := #[⟨below, some t⟩], pos := t.info.stop
      cost := b.cost + t.price
      weight := b.weight + t.weight
      dynamic := b.dynamic + t.info.dynamic }

/-- Whether two links carry readings that may be treated as one. -/
def Link.alike (a b : Link) : Bool :=
  match a.tree, b.tree with
  | none, none => true
  | some s, some t => s.alike t
  | _, _ => false

/-- The dynamic weight of a link's tree. -/
def Link.dynamic (l : Link) : Int := l.tree.elim 0 (·.info.dynamic)

/-- Adds a link to a node. A link like one that is there already is joined with it: the tree of greater
dynamic weight stays, and nodes below that agree are joined in turn. `fuel` bounds how far down that goes. -/
def addLink : Nat → Stack → Nat → Link → Stack
  | 0, s, _, _ => s
  | fuel + 1, s, self, l =>
    if l.below = self then s
    else
      let node := s[self]!
      let other := s[l.below]!
      let meets (e : Link) : Bool :=
        let n := s[e.below]!
        Link.alike e l && (e.below == l.below ||
          (n.row == other.row && n.pos == other.pos && n.cost == other.cost))
      match node.links.findIdx? meets with
      | some i =>
        let e := node.links[i]!
        if e.below = l.below then
          if Link.dynamic l > Link.dynamic e then
            s.set! self { node with
              links := node.links.set! i { e with tree := l.tree }
              dynamic := other.dynamic + Link.dynamic l }
          else s
        else
          let s := other.links.foldl (fun s x => addLink fuel s e.below x) s
          s.modify self fun n => { n with dynamic := max n.dynamic (other.dynamic + Link.dynamic l) }
      | none =>
        if node.links.size = maxLinks then s
        else s.set! self { node with
          links := node.links.push l
          weight := max node.weight (other.weight + l.tree.elim 0 (·.weight))
          dynamic := max node.dynamic (other.dynamic + Link.dynamic l) }

/-- A walk from a node towards the bottom, with the trees passed, the lowest first, and how many of them
count. -/
structure Walker where
  node : Nat
  trees : List Tree := []
  count : Nat := 0
deriving Inhabited

/-- The walker after a link. -/
def Walker.pass (w : Walker) (l : Link) : Walker :=
  match l.tree with
  | some t => ⟨l.below, t :: w.trees, if t.info.extra then w.count else w.count + 1⟩
  | none => ⟨l.below, w.trees, w.count + 1⟩

/-- What is done with a walker that has come to a node. -/
inductive Verdict where
  | goOn
  | stop
  /-- Note the walker and stop. -/
  | take
deriving DecidableEq, Inhabited

/-- Moves every walker over one link, or several when it comes to a fork; the walkers of a fork are
walked last. Returns the walkers noted. -/
def sweep {σ : Type} (s : Stack) (visit : σ → Walker → σ × Verdict) (state : σ)
    (walkers : Array Walker) : σ × Array Walker × Array Walker := Id.run do
  let mut state := state
  let mut alive : Array Walker := #[]
  let mut forked : Array Walker := #[]
  let mut taken : Array Walker := #[]
  let mut total := walkers.size
  for w in walkers do
    let (state', verdict) := visit state w
    state := state'
    let links := (s[w.node]!).links
    if verdict = .take then
      taken := taken.push w
    if verdict ≠ .goOn || links.isEmpty then
      total := total - 1
    else
      for l in links.extract 1 links.size do
        if total < maxWalkers then
          forked := forked.push (w.pass l)
          total := total + 1
      alive := alive.push (w.pass links[0]!)
  return (state, alive ++ forked, taken)

/-- Walks from a node until all walkers have stopped. -/
def walk {σ : Type} (s : Stack) (visit : σ → Walker → σ × Verdict) (state : σ) (start : Nat) :
    σ × Array Walker := Id.run do
  let mut state := state
  let mut walkers : Array Walker := #[{ node := start }]
  let mut taken : Array Walker := #[]
  for _ in [0:s.size + 1] do
    if walkers.isEmpty then break
    let (state', walkers', taken') := sweep s visit state walkers
    state := state'
    walkers := walkers'
    taken := taken ++ taken'
  return (state, taken)

/-- The paths of `count` trees from a node, by the node that they end at. -/
def pop (s : Stack) (start count : Nat) : Array (Nat × Array (List Tree)) :=
  let (_, taken) := walk s (fun _ w => ((), if w.count = count then .take else .goOn)) () start
  taken.foldl (fun acc w =>
    match acc.findIdx? (·.1 == w.node) with
    | some i => acc.modify i fun (n, ps) => (n, ps.push w.trees)
    | none => acc.push (w.node, #[w.trees])) #[]

/-- The trees of all paths from a node to the bottom. -/
def toBottom (s : Stack) (start : Nat) : Array (List Tree) :=
  let (_, taken) := walk s
    (fun _ w => ((), if (s[w.node]!).links.isEmpty then .take else .goOn)) () start
  taken.map (·.trees)

/-- A place below on a stack: how deep it is, and where it stands in the text. -/
structure Place where
  pos : Nat
  depth : Nat
  row : Nat
deriving Inhabited

/-- The places down to a depth, each state once for every depth. -/
def places (s : Stack) (start maxDepth : Nat) : Array Place :=
  let visit (known : Array Place) (w : Walker) : Array Place × Verdict :=
    let n := s[w.node]!
    if w.count > maxDepth then (known, .stop)
    else if (known.toList.reverse.takeWhile (·.depth ≥ w.count)).any fun p =>
        p.depth == w.count && p.row == n.row then (known, .goOn)
    else (known.push ⟨n.pos, w.count, n.row⟩, .goOn)
  (walk s visit #[] start).1

end Stack

end TypeCensus.Reading
