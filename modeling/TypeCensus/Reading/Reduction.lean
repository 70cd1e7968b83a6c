import TypeCensus.Reading.Tokens

/-!
# Reduction — from the trees on a version to their phrase

A reduction takes the last trees of a version together.  Where versions have merged there are several ways back, so
one reduction may part a version again; of the ways that end at one node the best tree is kept.
-/

namespace TypeCensus.Reading

open TypeCensus.Grammar

namespace Parse

variable (r : Parse)

/-- Gives every way back a version of its own, and returns them with their trees. -/
def part (v count : Nat) : Array (Nat × Array (List Tree)) × Parse :=
  let ways := Stack.pop r.stack (r.versions[v]!).node count
  let mark := (r.versions[v]!).weightAtBreak
  let first := r.versions.size
  (ways.mapIdx fun i (_, trees) => (first + i, trees),
    { r with versions := r.versions ++ ways.map fun (node, _) => { node, weightAtBreak := mark } })

/-- The best tree of a phrase over several lists of children, with the extras that follow it. -/
def bestTree (phrase shape pos : Nat) (ways : Array (List Tree)) : Option (Tree × List Tree) :=
  ways.foldl (fun best way =>
    let (cs, extras) := Tree.splitExtras way
    let t := r.tree (.symbol (.phrase phrase)) cs pos shape
    match best with
    | none => some (t, extras)
    | some (b, _) => if Tree.replaces r.grammar t b then some (t, extras) else best) none

/-- Merges version `w` into the first of the versions before it that agrees, version `v` aside. -/
def mergeBack (v w : Nat) : Nat → Nat → Option Parse
  | _, 0 => none
  | j, fuel + 1 =>
    if j ≥ w then none
    else if j = v then mergeBack v w (j + 1) fuel
    else match r.merge? j w with
      | some r' => some r'
      | none => mergeBack v w (j + 1) fuel

/-- Reduces the last `count` trees of a version to a phrase, on new versions. Returns the first of them, if any is
left. -/
def reduce (v phrase count shape : Nat) (dynamic : Int) : Option Nat × Parse := Id.run do
  let first := r.versions.size
  let (ways, parted) := r.part v count
  let mut r := parted
  let mut removed := 0
  for (w, trees) in ways do
    let w := w - removed
    if w > maxVersions + spareVersions then
      r := r.drop w
      removed := removed + 1
    else if let some (t, extras) := r.bestTree phrase shape (r.top w).pos trees then
      let row := r.next (r.rowOf w) (.phrase phrase)
      r := r.push w (some (t.weighed dynamic)) row
      for e in extras do
        r := r.push w (some e) row
      if let some merged := r.mergeBack v w 0 w then
        r := merged
        removed := removed + 1
  return (if r.versions.size > first then some first else none, r)

/-- Comes to the end of the text with a version: all its trees are taken into the tree of the text. -/
def finish (v : Nat) (last : Tree) : Parse := Id.run do
  let mut r := r.push v (some last) 1
  for way in Stack.toBottom r.stack (r.versions[v]!).node do
    let extras := way.reverse.takeWhile (·.info.extra)
    let before := way.take (way.length - extras.length)
    if let some root := before.getLast? then
      let cs := before.dropLast ++ root.children ++ extras.reverse
      let t := r.tree root.info.kind cs 0
      let better := r.finished.all fun old => Tree.replaces r.grammar t old
      r := { r with
        finishes := r.finishes + 1
        finished := if better then some t else r.finished }
  return r.halt v

/-- The reductions of a row on some tokens, each phrase and size once, and whether the row can read one of the
tokens. -/
def reductionsOn (row : Nat) (tokens : List Nat) : Array (Nat × Nat × Nat × Int) × Bool :=
  tokens.foldl (fun acc t => (r.actions row t).foldl (fun (found, reads) a =>
    match a with
    | .shift _ again => (found, reads || !again)
    | .recover => (found, true)
    | .reduce phrase size shape dynamic =>
      if size = 0 || found.any (fun (p, n, _) => p == phrase && n == size) then (found, reads)
      else (found.push (phrase, size, shape, dynamic), reads)
    | _ => (found, reads)) acc) (#[], false)

/-- The tokens that a lookahead stands for; an unknown one stands for all. -/
def tokensFor (lookahead : Option Nat) : List Nat :=
  match lookahead with
  | some t => [t]
  | none => r.grammar.lexicon.guesses

/-- The first version from `j` on and before `v` that version `v` merges into. -/
def mergeForward (v : Nat) : Nat → Nat → Option Parse
  | _, 0 => none
  | j, fuel + 1 =>
    if j ≥ v then none
    else match r.merge? j v with
      | some r' => some r'
      | none => mergeForward v (j + 1) fuel

/-- Does all reductions that a version can do before the lookahead, on new versions; those that cannot read it
in the end are dropped when it is known. Says whether any can. -/
def reduceAll (start : Nat) (lookahead : Option Nat) : Bool × Parse := Id.run do
  let first := r.versions.size
  let tokens := r.tokensFor lookahead
  let mut r := r
  let mut v := start
  let mut can := false
  for i in [0:100000] do
    let count := r.versions.size
    if v ≥ count then break
    if let some merged := r.mergeForward v first count then
      r := merged
      continue
    let (reductions, reads) := r.reductionsOn (r.rowOf v) tokens
    let mut reduced : Option Nat := none
    for (phrase, size, shape, dynamic) in reductions do
      let (w, r') := r.reduce v phrase size shape dynamic
      r := r'
      reduced := w
    if reads then
      can := true
    else if let some w := reduced then
      if i < maxVersions then
        r := r.substitute w v
        continue
      else if lookahead.isSome then
        r := r.drop v
    else if lookahead.isSome then
      r := r.drop v
    v := if v = start then count else v + 1
  return (can, r)

end Parse

end TypeCensus.Reading
