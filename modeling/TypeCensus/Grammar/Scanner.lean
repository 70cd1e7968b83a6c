import TypeCensus.Grammar.Nfa
import TypeCensus.Text.Source

/-!
# Scanner — the deterministic automata that find tokens

A mode is a set of tokens that are looked for together.  The nodes of all modes are one array.  A scan runs
from a position as far as its mode allows and returns the last token that ended on the way.
-/

namespace TypeCensus.Grammar

open TypeCensus.Text (Source)

/-- A step over a letter; a blank one moves the beginning of the token. -/
structure Arc where
  target : Nat
  blank : Bool
deriving Inhabited, Repr

/-- A node of a scanner. -/
structure ScanNode where
  /-- The token that ends here. -/
  ending : Option Nat
  /-- The arcs by letter. -/
  arcs : Array (Option Arc)
  /-- Whether the end of the text is looked for here. -/
  endsText : Bool
deriving Inhabited, Repr

/-- The nodes of several modes. -/
structure Scanner where
  alphabet : Alphabet
  nodes : Array ScanNode
deriving Inhabited

/-- What a scan found: a token with its first position and the position after it, and how far it read. -/
structure Scan where
  found : Option (Nat × Nat)
  start : Nat
  cursor : Nat
deriving Inhabited, Repr

namespace Scanner

/-- Nodes numbered so far, by their places and by whether the end of the text is looked for. -/
structure Numbering where
  keys : Array (Array Nat × Bool) := #[]
  numbers : Std.HashMap (Array Nat × Bool) Nat := {}

/-- The number of a node, new if need be. -/
def Numbering.number (b : Numbering) (key : Array Nat × Bool) : Nat × Numbering :=
  match b.numbers[key]? with
  | some i => (i, b)
  | none => (b.keys.size, ⟨b.keys.push key, b.numbers.insert key b.keys.size⟩)

/-- The preferred of the tokens that end in a closed set of places. -/
def preferred (n : Nfa) (closed : Array Nat) : Option Nat :=
  (n.endings closed).foldl (fun best t =>
    match best with
    | some b => if n.prefers b t then best else some t
    | none => some t) none

/-- The node of a set of places. -/
def node (n : Nfa) (key : Array Nat × Bool) (b : Numbering) : ScanNode × Numbering :=
  let closed := n.closed key.1
  let ending := preferred n closed
  let blanks := n.readsBlanks closed
  let (arcs, b) := (n.moves closed).foldl (fun (arcs, b) m =>
    match m with
    | some m =>
      if ending.all fun t => n.goesOn t blanks m then
        let (target, b) := Numbering.number b (m.targets, key.2 && m.blank)
        (arcs.push (some ⟨target, m.blank⟩), b)
      else (arcs.push none, b)
    | none => (arcs.push none, b)) ((#[] : Array (Option Arc)), b)
  (⟨ending, arcs, key.2⟩, b)

/-- The scanner of several modes, and the node that each mode begins at. -/
def ofNfa (n : Nfa) (modes : Array BitSet) : Scanner × Array Nat := Id.run do
  let mut b : Numbering := {}
  let mut starts := #[]
  for mode in modes do
    let places := ((mode.toList n.starts.size).filter (· != 0)).map fun t => n.starts[t]!
    let (start, b') := b.number (Nfa.sorted places.toArray, mode.contains 0)
    b := b'
    starts := starts.push start
  let mut nodes := #[]
  let bound := 64 * n.places.size
  for i in [0:bound] do
    let some key := b.keys[i]? | break
    let (x, b') := node n key b
    b := b'
    nodes := nodes.push x
  return ({ alphabet := n.alphabet, nodes }, starts)

/-- The position where a text begins: a byte order mark is no part of it. -/
def opening (s : Source) : Nat := if s.chars[0]? = some '\ufeff' then 1 else 0

/-- Scans from a node on. -/
def scanFrom (x : Scanner) (s : Source) (node pos : Nat) (r : Scan) : Scan :=
  let here := x.nodes[node]!
  let found := match here.ending with
    | some t => some (t, pos)
    | none => r.found
  if h : pos < s.chars.size then
    match here.arcs[x.alphabet.letterOf (s.chars[pos]).toNat]! with
    | some arc =>
      scanFrom x s arc.target (pos + 1)
        { found, start := if arc.blank then pos + 1 else r.start, cursor := pos + 1 }
    | none => { r with found, cursor := pos }
  else { r with found := if here.endsText then some (0, pos) else found, cursor := pos }
termination_by s.chars.size - pos

/-- Scans for the tokens of the mode that begins at `node`. -/
def scan (x : Scanner) (s : Source) (node pos : Nat) : Scan :=
  let pos := if pos = 0 then opening s else pos
  x.scanFrom s node pos { found := none, start := pos, cursor := pos }

end Scanner

end TypeCensus.Grammar
