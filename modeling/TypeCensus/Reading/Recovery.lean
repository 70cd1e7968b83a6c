import TypeCensus.Reading.Reduction

/-!
# Recovery — going on after broken text

A broken version may guess one missing token, go back to a place where the next token can be read, or pile the
token onto the broken text and try the one after it.  What each way costs decides which of them lasts.
-/

namespace TypeCensus.Reading

open TypeCensus.Grammar

namespace Parse

variable (r : Parse)

/-- Takes a broken tree that a version stands on off again, and returns its children. -/
def takeBroken (v : Nat) : List Tree × Parse :=
  let found := (r.top v).links.findSome? fun l =>
    l.tree.bind fun t => if t.info.kind == .broken then some (l.below, t) else none
  match found with
  | some (below, t) =>
    (t.children, r.modifyVersion v fun x => { x with node := below, phase := .active, pending := none })
  | none => ([], r)

/-- Goes `depth` trees back to the row `goal`: what was read since becomes a broken tree. Says whether any
way leads there. -/
def goBack (v depth goal : Nat) : Bool × Parse := Id.run do
  let (ways, parted) := r.part v depth
  let mut r := parted
  let mut done := false
  for (w, trees) in ways do
    if r.rowOf w ≠ goal then
      r := r.halt w
    else if let some way := trees[0]? then
      let (before, r') := r.takeBroken w
      r := r'
      let (cs, extras) := Tree.splitExtras (before ++ way)
      if !cs.isEmpty then
        let broken := (r.tree .broken cs 0).asExtra true
        r := r.push w (some broken) goal
      for e in extras do
        r := r.push w (some e) goal
      done := true
  return (done, r)

/-- Tries the places that a version may go back to, for one where the token can be read. -/
def goBackFor (v known pos progress cost : Nat) (t : Tree) : List Stack.Place → Parse → Bool × Parse
  | [], r => (false, r)
  | p :: ps, r =>
    let taken := (List.range known).any fun w => r.rowOf w == p.row && (r.top w).pos == pos
    if p.row = 0 || p.pos = pos || taken then goBackFor v known pos progress cost t ps r
    else
      let s := r.source
      let cost' := cost + p.depth * Tree.treePrice + (s.byte pos - s.byte p.pos) * Tree.bytePrice +
        (s.line pos - s.line p.pos) * Tree.linePrice
      let (beaten, r) := r.isBeaten v cost'
      if beaten then (false, r)
      else if (r.actionsOn p.row t).isEmpty then goBackFor v known pos progress cost t ps r
      else
        match r.goBack v (if progress > 0 then p.depth + 1 else p.depth) p.row with
        | (true, r) => (true, r)
        | (false, r) => goBackFor v known pos progress cost t ps r

/-- Piles a token onto the broken text of a version. -/
def pileUp (v : Nat) (t : Tree) (progress : Nat) : Parse := Id.run do
  let mut r := r
  let t := match (r.actionsOn 1 t).back? with
    | some .skip => t.asExtra true
    | _ => t
  let mut pile := r.tree .pile [t] 0
  if progress > 0 then
    let first := r.versions.size
    let (ways, parted) := r.part v 1
    r := { parted with versions := parted.versions.extract 0 (first + 1) }
    if let some way := ways[0]?.bind (·.2[0]?) then
      r := r.substitute first v
      pile := r.tree .pile (way ++ [pile]) 0
  return r.push v (some pile) 0

/-- Goes on with a broken version before the token `t`. -/
def recover (v : Nat) (t : Tree) : Parse := Id.run do
  let known := r.versions.size
  let mut r := r.settle v
  let pos := (r.top v).pos
  let progress := r.progress v
  let cost := r.brokenCost v
  let mut done := false
  if t.info.kind != .broken then
    let places := ((r.versions[v]!).places.getD #[]).toList
    let (done', r') := goBackFor v known pos progress cost t places r
    done := done'
    r := r'
  r := { r with versions := (r.versions.extract 0 known) ++
    (r.versions.extract known r.versions.size).filter (·.phase == .active) }
  if done && r.versions.size > maxVersions then
    return r.halt v
  if t.info.kind == .symbol (.token 0) then
    r := r.push v (some (r.tree .broken [] pos)) 1
    return r.finish v t
  let s := r.source
  let cost' := cost + Tree.treePrice + (s.byte t.info.stop - s.byte t.info.begin) * Tree.bytePrice +
    t.info.lines * Tree.linePrice
  let (beaten, r') := r.isBeaten v cost'
  r := r'
  return if beaten then r.halt v else r.pileUp v t progress

/-- Guesses one token missing before `t`, on a version of its own. The rest of the guesses is not tried once
one leads on. -/
def guessMissing (v : Nat) (t : Tree) : List Nat → Parse → Bool × Parse
  | [], r => (false, r)
  | k :: ks, r =>
    let row := r.rowOf v
    let row' := r.next row (.token k)
    let reduces := match (r.actionsOn row' t)[0]? with
      | some (.reduce ..) => true
      | _ => false
    if row' = 0 || row' = row || !reduces then guessMissing v t ks r
    else
      let w := r.versions.size
      let pos := (r.top v).pos
      let missing := Tree.missing r.grammar r.source k pos
      let r := { r with versions := r.versions.push { r.versions[v]! with places := none } }
      let r := r.push w (some missing) row'
      let lookahead := match t.info.kind with
        | .symbol (.token (k + 1)) => some (k + 1)
        | _ => none
      match r.reduceAll w lookahead with
      | (true, r) => (true, r)
      | (false, r) => guessMissing v t ks r

/-- Breaks a version that cannot read the token `t`. -/
def breakOff (v : Nat) (t : Tree) : Parse := Id.run do
  let known := r.versions.size
  let mut r := (r.reduceAll v none).2
  let reduced := r.versions.size
  let mut guessed := false
  for w in v :: (List.range reduced).filter (known ≤ ·) do
    if !guessed then
      let (guessed', r') := guessMissing w t r.grammar.lexicon.guesses r
      guessed := guessed'
      r := r'
    r := r.push w none 0
  for _ in [known:reduced] do
    r := (r.merge? v known).getD r
  let places := Stack.places r.stack (r.versions[v]!).node maxDepth
  r := r.modifyVersion v ({ · with places := some places })
  return r.recover v t

end Parse

end TypeCensus.Reading
