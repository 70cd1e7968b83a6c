import Std.Data.HashSet
import TypeCensus.Grammar.BitSet
import TypeCensus.Grammar.Lexicon

/-!
# Nfa — one automaton for all token classes

The places of the automaton read one character each, fork, or end a token.  Before a token that is not glued
to its left, blanks are read.  Characters that no class tells apart are one letter of the alphabet.
-/

namespace TypeCensus.Grammar

/-- Characters up to what the classes of a lexicon can tell apart. -/
structure Alphabet where
  /-- The first code points of the intervals, in increasing order. -/
  bounds : Array Nat
  /-- The letter of each interval. -/
  letters : Array Nat
  /-- The number of letters. -/
  size : Nat
  /-- The letters of the ASCII characters. -/
  ascii : Array Nat
deriving Inhabited

namespace Alphabet

/-- The last interval that begins at or below a code point, between `lo` and `hi`. -/
def search (bounds : Array Nat) (c : Nat) (lo : Nat) : Nat → Nat
  | 0 => lo
  | width + 1 =>
    let mid := lo + (width + 2) / 2
    if bounds[mid]!.ble c then search bounds c mid (width + 1 - (width + 2) / 2)
    else search bounds c lo ((width + 2) / 2 - 1)
termination_by width => width
decreasing_by all_goals omega

/-- The letter of a code point. -/
def letterOf (a : Alphabet) (c : Nat) : Nat :=
  if c < 128 then a.ascii[c]! else a.letters[search a.bounds c 0 (a.bounds.size - 1)]!

/-- The alphabet that tells the given classes apart, and the letters of each class. -/
def ofClasses (classes : Array CharClass) : Alphabet × Array BitSet := Id.run do
  let points := classes.toList.flatMap fun s => s.ranges.flatMap fun r => [r.1, r.2 + 1]
  let bounds := (((0 :: points).mergeSort (· ≤ ·)).eraseReps).toArray
  let mut known : Std.HashMap (List Nat) Nat := {}
  let mut letters : Array Nat := #[]
  let mut members : Array BitSet := classes.map fun _ => .empty
  for c in bounds do
    let signature := (List.range classes.size).filter fun i => classes[i]!.contains c
    match known[signature]? with
    | some l => letters := letters.push l
    | none =>
      let l := known.size
      known := known.insert signature l
      letters := letters.push l
      for i in signature do
        members := members.modify i (·.insert l)
  let size := known.size
  let letters' := letters
  let ascii := (Array.range 128).map fun c => letters'[search bounds c 0 (bounds.size - 1)]!
  return ({ bounds, letters := letters', size, ascii }, members)

end Alphabet

/-- A place of the automaton. -/
inductive Place where
  /-- Read a character of a class; `blank` before the token has begun. -/
  | take (set : Nat) (next : Nat) (blank : Bool)
  | fork (left right : Nat)
  | done
deriving Inhabited, Repr

/-- The automaton of all token classes. -/
structure Nfa where
  places : Array Place
  /-- The token that each place works for. -/
  owners : Array Nat
  /-- Where each token begins. -/
  starts : Array Nat
  alphabet : Alphabet
  /-- The letters of the classes that places read. -/
  members : Array (Array Nat)
  /-- The reading and ending places that each place forks to, in increasing order. -/
  reach : Array (Array Nat)
  weights : Array Int
  ranks : Array Nat
deriving Inhabited

namespace Nfa

/-- The places and character classes laid out so far. -/
structure Draft where
  places : Array Place := #[]
  sets : Array CharClass := #[]

/-- Adds a place. -/
def place (p : Place) : StateM Draft Nat :=
  modifyGet fun d => (d.places.size, { d with places := d.places.push p })

/-- The number of a character class. -/
def setNumber (s : CharClass) : StateM Draft Nat :=
  modifyGet fun d =>
    match d.sets.findIdx? (· == s) with
    | some i => (i, d)
    | none => (d.sets.size, { d with sets := d.sets.push s })

/-- Lays out a pattern before the place `next` and returns where it begins. -/
def layout (blank : Bool) : Pattern → Nat → StateM Draft Nat
  | .nothing, next => return next
  | .oneOf s, next => do place (.take (← setNumber s) next blank)
  | .text w, next => w.toList.foldrM (fun c next => do
      place (.take (← setNumber (.single c)) next blank)) next
  | .seq a b, next => do layout blank a (← layout blank b next)
  | .alt a b, next => do place (.fork (← layout blank a next) (← layout blank b next))
  | .many1 p, next => do
    let again ← place .done
    let start ← layout blank p again
    modify fun d => { d with places := d.places.set! again (.fork start next) }
    return start

/-- Lays out a token class and returns where it begins. -/
def layoutClass (blanks : CharClass) (c : TokenClass) : StateM Draft Nat := do
  let start ← layout false c.pattern (← place .done)
  if c.glued then return start else layout true (.many (.oneOf blanks)) start

/-- The places that a place forks to. -/
def forks (places : Array Place) : Nat → Array Nat → Array Nat → Array Nat
  | 0, _, found => found
  | fuel + 1, todo, found =>
    match todo.back? with
    | none => found
    | some p =>
      match places[p]! with
      | .fork a b => forks places fuel ((todo.pop.push a).push b) found
      | _ => forks places fuel todo.pop (if found.contains p then found else found.push p)

/-- The automaton of a lexicon. -/
def ofLexicon (x : Lexicon) : Nfa := Id.run do
  let mut draft : Draft := {}
  let mut starts : Array Nat := #[0]
  let mut owners : Array Nat := #[]
  for c in x.classes, i in [0:x.classes.size] do
    let (start, draft') := (layoutClass x.blanks c).run draft
    draft := draft'
    starts := starts.push start
    owners := owners ++ Array.replicate (draft.places.size - owners.size) (i + 1)
  let (alphabet, members) := Alphabet.ofClasses draft.sets
  let places := draft.places
  return {
    places, owners, starts, alphabet
    members := members.map fun s => (s.toList alphabet.size).toArray
    reach := (Array.range places.size).map fun p =>
      (forks places (2 * places.size) #[p] #[]).qsort (· < ·)
    weights := #[0] ++ x.classes.map (·.weight)
    ranks := #[0] ++ x.classes.map (·.rank) }

/-- The elements of a list in increasing order, each once. -/
def sorted (ps : Array Nat) : Array Nat :=
  (ps.qsort (· < ·)).foldl (fun acc p => if acc.back? == some p then acc else acc.push p) #[]

/-- The reading and ending places of a set of places. -/
def closed (n : Nfa) (ps : Array Nat) : Array Nat := sorted (ps.flatMap fun p => n.reach[p]!)

/-- Where a letter leads: the places, whether only blanks have been read, and the greatest weight. -/
structure Move where
  targets : Array Nat
  blank : Bool
  weight : Int
deriving Inhabited

/-- The moves from a closed set of places, by letter. -/
def moves (n : Nfa) (places : Array Nat) : Array (Option Move) := Id.run do
  let mut out : Array (Option Move) := Array.replicate n.alphabet.size none
  for p in places do
    if let .take set next blank := n.places[p]! then
      let weight := if blank then 0 else n.weights[n.owners[p]!]!
      for l in n.members[set]! do
        out := out.modify l fun
          | none => some ⟨#[next], blank, weight⟩
          | some m => some ⟨m.targets.push next, m.blank && blank, max m.weight weight⟩
  return out.map (·.map fun m => { m with targets := sorted m.targets })

/-- Whether some place of the set reads a blank before its token. -/
def readsBlanks (n : Nfa) (places : Array Nat) : Bool := places.any fun p =>
  match n.places[p]! with
  | .take _ _ blank => blank
  | _ => false

/-- The tokens that end in a closed set of places, in increasing order. -/
def endings (n : Nfa) (places : Array Nat) : Array Nat := places.filterMap fun p =>
  match n.places[p]! with
  | .done => some n.owners[p]!
  | _ => none

/-- Whether token `s` is preferred to token `t` where both end. -/
def prefers (n : Nfa) (s t : Nat) : Bool :=
  if n.weights[s]! != n.weights[t]! then n.weights[s]! > n.weights[t]!
  else if n.ranks[s]! != n.ranks[t]! then n.ranks[s]! > n.ranks[t]!
  else s < t

/-- Whether reading on is preferred to ending with token `t`. -/
def goesOn (n : Nfa) (t : Nat) (readsBlanks : Bool) (m : Move) : Bool :=
  if m.weight < n.weights[t]! then false
  else if m.weight == n.weights[t]! then
    !m.blank && !(readsBlanks && !m.targets.any fun p => n.owners[p]! == t)
  else true

end Nfa

end TypeCensus.Grammar
