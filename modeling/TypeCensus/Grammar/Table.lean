import TypeCensus.Grammar.Merging
import TypeCensus.Grammar.Scanner

/-!
# Table — all that reading a text asks about a grammar

The rows are the merged states.  Each has its actions, the states after phrases, the mode its tokens are
scanned in, and the tokens that may be taken over when they were scanned in another mode.
-/

namespace TypeCensus.Grammar

/-- A state as it is consulted while a text is read. -/
structure Row where
  actions : Array (Array Action)
  /-- The state after each phrase; `0` where there is none. -/
  gotos : Array Nat
  mode : Nat
  reusable : BitSet
deriving Inhabited

/-- The tables of a grammar. Row `0` is for broken text, row `1` begins. -/
structure Table where
  grammar : FlatGrammar
  rows : Array Row
  shapes : Array Shape
  scanner : Scanner
  /-- The node that each mode begins at. -/
  modes : Array Nat
  /-- The node at which a word is looked up among the keywords. -/
  keywordNode : Nat
deriving Inhabited

namespace Table

/-- The keywords of a lexicon: the literals that the class they are cut from matches as well. -/
def keywords (x : Lexicon) (c : Clash) : BitSet :=
  BitSet.ofList <| (List.range x.size).filter fun t =>
    ((x.class? t).bind TokenClass.literal?).isSome && (c.equals[t]!).contains x.wordToken

/-- The first state, made to recover from every token that is not elusive. -/
def recovering (x : Lexicon) (s : State) : State :=
  { s with
    actions := s.actions.mapIdx fun t cell =>
      if cell.isEmpty && (x.class? t).all fun c => !c.elusive then #[.recover] else cell }

/-- For every token, the tokens that share a state with it. -/
def companions (size : Nat) (sets : Array BitSet) : Array BitSet :=
  sets.foldl (fun acc s => (s.toList size).foldl (fun acc t => acc.modify t (·.union s)) acc)
    (Array.replicate size .empty)

/-- For every token, the tokens that no mode may newly join with it. -/
def hostile (size : Nat) (c : Clash) (together : Array BitSet) : Array BitSet :=
  let overlaps := (Array.range size).map c.overlaps
  (Array.range size).map fun t =>
    if t = 0 then .empty
    else ((c.conflicts t).union c.stops[t]!).union <| BitSet.ofList <|
      (List.range size).filter fun u => u != 0 && !(together[t]!).contains u &&
        ((overlaps[t]!).contains u || (overlaps[u]!).contains t)

/-- Whether two sets of tokens may be scanned in one mode. -/
def joinable (size : Nat) (hostile : Array BitSet) (a b : BitSet) : Bool :=
  (List.range size).all fun t =>
    if a.contains t then b.contains t || !(hostile[t]!).meets b
    else !b.contains t || !(hostile[t]!).meets a

/-- Joins the token sets of the states into modes; the mode of each state comes second. -/
def joinModes (size : Nat) (hostile : Array BitSet) (sets : Array BitSet) : Array BitSet × Array Nat :=
  sets.foldl (fun (modes, of) s =>
    match modes.findIdx? (joinable size hostile · s) with
    | some m => (modes.modify m (·.union s), of.push m)
    | none => (modes.push s, of.push modes.size)) (#[], #[])

/-- The tokens that a state looks for: keywords are found through the token they are cut from. -/
def sought (x : Lexicon) (keywords : BitSet) (s : BitSet) : BitSet :=
  BitSet.ofList <| (s.toList x.size).map fun t => if keywords.contains t then x.wordToken else t

/-- The tables of an outline. -/
def ofOutline (o : Outline) : Table :=
  let g := o.flat
  let x := g.lexicon
  let b := Blueprint.ofGrammar g
  let n := Nfa.ofLexicon x
  let c := Clash.ofBlueprint g b.table.productions n
  -- no grammar needs more states than this one has letters in all its items
  let a := Automaton.ofBlueprint b (b.table.items.size * x.size)
  let together := companions x.size (a.states.map State.tokens)
  let a := { a with states := a.states.modify 0 (recovering x) }
  let words := keywords x c
  let states := bySize <| withoutUnused <| withoutUnits g <| (Merging.ofAutomaton a x c words).merged
  let sets := states.map State.tokens
  let (modes, modeOf) := joinModes x.size (hostile x.size c together) (sets.map (sought x words))
  let (scanner, starts) := Scanner.ofNfa n (modes.push words)
  let overlappedBy := (Array.range x.size).map fun t => BitSet.ofList <|
    (List.range x.size).filter fun u => (c.overlaps u).contains t
  let rows := states.mapIdx fun i s =>
    { actions := s.actions
      gotos := s.gotos.foldl (fun gs (p, t) => gs.set! p t) (Array.replicate g.phrases.size 0)
      mode := modeOf[i]!
      reusable := BitSet.ofList <| (sets[i]!.toList x.size).filter fun t =>
        i != 0 && !(overlappedBy[t]!).meets sets[i]! }
  { grammar := g, rows, shapes := b.table.shapes, scanner, modes := starts.pop
    keywordNode := starts.back! }

end Table

end TypeCensus.Grammar
