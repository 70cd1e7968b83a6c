import TypeCensus.Grammar.Automaton
import TypeCensus.Grammar.Nfa

/-!
# Clash — how the texts of two token classes get in each other's way

When a state looks for two classes at once, one may end where the other goes on, or both may match one
text.  `Clash.ofBlueprint` explores every pair of classes and notes who wins where.  States are later merged, and look
for tokens with one scanner, only where no clash forbids it.
-/

namespace TypeCensus.Grammar

/-- What a pair of token classes does to each other; each field lists, for every token `s`, tokens `t`. -/
structure Clash where
  /-- `s` ends although `t` could go on. -/
  stops : Array BitSet
  /-- `s` goes on where `t` could end. -/
  outruns : Array BitSet
  /-- `s` goes on where `t` could end, with a letter that may also follow `t`. -/
  swallows : Array BitSet
  /-- `s` ends where blanks before `t` may still be read. -/
  crossesBlanks : Array BitSet
  /-- `s` is preferred where both match the same text. -/
  equals : Array BitSet
deriving Inhabited

namespace Clash

/-- No clashes among `size` tokens. -/
def none (size : Nat) : Clash :=
  let empty := Array.replicate size BitSet.empty
  ⟨empty, empty, empty, empty, empty⟩

/-- Notes a pair. -/
def note (table : Array BitSet) (s t : Nat) : Array BitSet := table.modify s (·.insert t)

/-- Whether looking for `t` as well can take texts of `s` away, or the other way round. -/
def conflicts (c : Clash) (s : Nat) : BitSet :=
  (c.swallows[s]!).union ((c.crossesBlanks[s]!).union c.equals[s]!)

/-- The tokens whose texts meet those of `s` in some way. -/
def overlaps (c : Clash) (s : Nat) : BitSet :=
  (c.stops[s]!).union ((c.outruns[s]!).union ((c.crossesBlanks[s]!).union c.equals[s]!))

/-- The letters that the texts of each token may begin with, blanks before them included. -/
def startLetters (n : Nfa) : Array BitSet :=
  n.starts.mapIdx fun t start =>
    if t = 0 then .empty
    else (n.reach[start]!).foldl (fun s p =>
      match n.places[p]! with
      | .take set _ _ => (n.members[set]!).foldl BitSet.insert s
      | _ => s) .empty

/-- The tokens that may follow each token. -/
def followers (g : FlatGrammar) (productions : Array Production) : Array BitSet := Id.run do
  let first := g.firstSets
  let last := g.lastSets
  let size := g.lexicon.size
  let all := BitSet.ofList ((List.range size).drop 1)
  let mut out := (Array.range size).map fun t =>
    if g.extras.contains t then all else BitSet.ofList g.extras
  for p in productions do
    for i in [1:p.steps.size] do
      let next := FlatGrammar.tokensOf first p.steps[i]!.symbol
      for t in (FlatGrammar.tokensOf last p.steps[i - 1]!.symbol).toList size do
        out := out.modify t (·.union next)
  return out

/-- What the places of an automaton do, worked out once for each set of places. -/
structure Outlook where
  blanks : Bool
  endings : Array Nat
  /-- Each set of places that a letter leads to, with the letters that lead there. -/
  moves : Array (Nfa.Move × BitSet)
deriving Inhabited

namespace Outlook

/-- The outlook from a set of places. -/
def ofPlaces (n : Nfa) (places : Array Nat) : Outlook :=
  let closed := n.closed places
  let moves := (n.moves closed).foldl (fun (acc, l) m =>
    (match m with
      | some m =>
        match acc.findIdx? fun (m', _) => m'.targets == m.targets && m'.blank == m.blank &&
            m'.weight == m.weight with
        | some i => acc.modify i fun (m', ls) => (m', ls.insert l)
        | Option.none => acc.push (m, .single l)
      | Option.none => acc, l + 1)) ((#[] : Array (Nfa.Move × BitSet)), 0)
  { blanks := n.readsBlanks closed, endings := n.endings closed, moves := moves.1 }

end Outlook

/-- Outlooks worked out so far. -/
abbrev Outlooks := Std.HashMap (Array Nat) Outlook

/-- The preferred of the tokens that end together, every meeting of two noted on the way. Where blanks may
still be read nothing else is noted. -/
def ending (n : Nfa) (o : Outlook) (i j : Nat) (c : Clash) : Option Nat × Clash :=
  let other (t : Nat) := if t = i then j else i
  if o.blanks then
    match o.endings[0]? with
    | some t => (Option.none, { c with crossesBlanks := note c.crossesBlanks t (other t) })
    | Option.none => (Option.none, c)
  else o.endings.foldl (fun (best, c) t =>
    match best with
    | Option.none => (some t, c)
    | some b =>
      if b = t then (best, c)
      else
        let winner := if n.prefers b t then b else t
        (some winner, { c with equals := note c.equals winner (other winner) })) (Option.none, c)

/-- Notes what happens where token `t` could end and the other one goes on. -/
def onward (n : Nfa) (following : Array BitSet) (o : Outlook) (t other : Nat) (c : Clash) : Clash :=
  o.moves.foldl (fun c (m, letters) =>
    if m.targets.any fun p => n.owners[p]! == t then c
    else if n.goesOn t o.blanks m then
      let c := { c with outruns := note c.outruns other t }
      if letters.meets following[t]! then { c with swallows := note c.swallows other t } else c
    else { c with stops := note c.stops t other }) c

/-- Explores the texts that the tokens `i` and `j` share beginnings of; `bound` bounds the number of sets of
places met. -/
def explore (n : Nfa) (following : Array BitSet) (i j bound : Nat) (c : Clash) (cache : Outlooks) :
    Clash × Outlooks := Id.run do
  let mut c := c
  let mut cache := cache
  let mut met : List (Array Nat) := []
  let mut todo : Array (Array Nat) := #[Nfa.sorted #[n.starts[i]!, n.starts[j]!]]
  for _ in [0:bound] do
    let some places := todo.back? | break
    todo := todo.pop
    if places.all (fun p => n.owners[p]! == i) || places.all (fun p => n.owners[p]! == j) then
      continue
    let o := (cache[places]?).getD (Outlook.ofPlaces n places)
    cache := cache.insert places o
    let (winner, c') := ending n o i j c
    c := c'
    if let some t := winner then
      c := onward n following o t (if t = i then j else i) c
    for (m, _) in o.moves do
      if !met.contains m.targets then
        met := m.targets :: met
        todo := todo.push m.targets
  return (c, cache)

/-- The clashes of a lexicon. -/
def ofBlueprint (g : FlatGrammar) (productions : Array Production) (n : Nfa) : Clash := Id.run do
  let size := g.lexicon.size
  let begins := startLetters n
  let following := (followers g productions).map fun s =>
    (s.toList size).foldl (fun ls t => ls.union begins[t]!) BitSet.empty
  let mut c := none size
  let mut cache : Outlooks := {}
  let bound := n.places.size * n.places.size
  for i in [1:size] do
    for j in [1:i] do
      let (c', cache') := explore n following i j bound c cache
      c := c'
      cache := cache'
  return c

end Clash

end TypeCensus.Grammar
