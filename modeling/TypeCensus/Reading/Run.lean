import TypeCensus.Reading.Recovery

/-!
# Run — a whole text

In every round each active version goes on by a token; then the versions are compared, and the worse ones are
taken out.  The run ends when no version is left, or none can beat the best finished tree.
-/

namespace TypeCensus.Reading

open TypeCensus.Grammar
open TypeCensus.Text (Source)

namespace Parse

variable (r : Parse)

/-- What came of the actions of a version on a token. -/
inductive Step where
  /-- The version has read the token, or has ended. -/
  | done (r : Parse)
  /-- Only reductions were done; the last new version comes with them. -/
  | reduced (last : Option Nat) (r : Parse)

/-- Does the actions of a version on a token. -/
def act (v : Nat) (t : Tree) (last : Option Nat) : List Action → Parse → Step
  | [], r => .reduced last r
  | a :: rest, r =>
    match a with
    | .shift _ true => act v t last rest r
    | .shift target false =>
      .done (r.push v (some (t.asExtra false)) target)
    | .skip => .done (r.push v (some (t.asExtra true)) (r.rowOf v))
    | .reduce phrase size shape dynamic =>
      let (w, r) := r.reduce v phrase size shape dynamic
      act v t (w <|> last) rest r
    | .accept => .done (r.finish v t)
    | .recover => .done (r.recover v t)

/-- A word in place of the keyword that it was read as, where the version can use it. -/
def asWord? (v : Nat) (t : Tree) : Option Tree :=
  let word := r.grammar.lexicon.wordToken
  if t.info.keyword && t.info.kind != .symbol (.token word) &&
      !(r.actions (r.rowOf v) word).isEmpty then
    let i := t.info
    some (r.leaf (.symbol (.token word)) i.begin i.start i.stop i.row).asKeyword
  else none

/-- Goes on with a version by one token; `fuel` bounds its reductions. -/
def advanceWith (v : Nat) : Nat → Tree → Parse → Parse
  | 0, _, r => r.halt v
  | fuel + 1, t, r =>
    match act v t none (r.actionsOn (r.rowOf v) t).toList r with
    | .done r => r
    | .reduced (some w) r => advanceWith v fuel t (r.substitute w v)
    | .reduced none r =>
      match r.asWord? v t with
      | some t => advanceWith v fuel t r
      | none =>
        if r.rowOf v = 0 then r.recover v t
        else
          let weight := (r.top v).weight
          r.modifyVersion v fun x => { x with phase := .paused, pending := some t, weightAtBreak := weight }

/-- Goes on with a version by one token. -/
def advance (v : Nat) : Parse :=
  let (t, r) := r.peek v
  r.advanceWith v (1000 + 100 * r.stack.size) t

/-- Goes on with version `v` until it has passed the place `reached` that the text was read up to. -/
def advanceTo (v : Nat) : Nat → Nat → Parse → Nat × Parse
  | 0, reached, r => (reached, r)
  | fuel + 1, reached, r =>
    if (r.versions[v]?).any (·.phase == .active) then
      let r := r.advance v
      if v < r.versions.size then
        let pos := (r.top v).pos
        if pos > reached || (v > 0 && pos = reached) then (pos, r)
        else advanceTo v fuel reached r
      else (reached, r)
    else (reached, r)

/-- Goes on with every version. -/
def advanceAll : Nat → Nat → Nat → Parse → Nat × Parse
  | 0, _, reached, r => (reached, r)
  | fuel + 1, v, reached, r =>
    if v < r.versions.size then
      let (reached, r) := advanceTo v (10 + 10 * r.source.size) reached r
      advanceAll fuel (v + 1) reached r
    else (reached, r)

/-- Compares version `i` with those before it, from `j` on. Returns the number of the next version to look at. -/
def contend (self : Standing) : Nat → Nat → Nat → Parse → Nat × Parse
  | 0, _, i, r => (i + 1, r)
  | fuel + 1, j, i, r =>
    if j ≥ i then (i + 1, r)
    else
      let r := r.settle j
      match (r.standing j).compare self with
      | .takeLeft => (i, r.drop i)
      | .takeRight => contend self fuel j (i - 1) (r.drop j)
      | c =>
        match r.merge? j i with
        | some r => (i, r)
        | none =>
          let r := if c = .preferRight then
              { r with versions := (r.versions.set! i r.versions[j]!).set! j r.versions[i]! }
            else r
          contend self fuel (j + 1) i r

/-- Takes the halted versions out, and those that another version beats. Returns the least cost of an
unbroken version. -/
def thin : Nat → Nat → Option Nat → Parse → Option Nat × Parse
  | 0, _, least, r => (least, r)
  | fuel + 1, i, least, r =>
    if i ≥ r.versions.size then (least, r)
    else if (r.versions[i]!).phase = .halted then thin fuel i least (r.drop i)
    else
      let r := r.settle i
      let self := r.standing i
      let least := if self.broken then least else some (least.elim self.cost (min self.cost))
      let (i, r) := contend self r.versions.size 0 i r
      thin fuel i least r

/-- Breaks the first paused version unless a better one is active, and drops the others. -/
def resume : Nat → Nat → Nat → Bool → Option Nat → Parse → Option Nat × Parse
  | 0, _, _, _, least, r => (least, r)
  | fuel + 1, i, bound, chosen, least, r =>
    if i ≥ bound then (least, r)
    else
      let x := r.versions[i]!
      if x.phase = .paused then
        if !chosen && r.finishes < maxVersions then
          let least := some (r.brokenCost i)
          let r := r.modifyVersion i ({ · with phase := .active, pending := none })
          let r := x.pending.elim r (r.breakOff i)
          resume fuel (i + 1) bound true least r
        else resume fuel i (bound - 1) chosen least (r.drop i)
      else resume fuel (i + 1) bound true least r

/-- Takes worse versions out. Returns the least cost that a version left may end with. -/
def condense : Option Nat × Parse :=
  let (least, r) := thin (2 * r.versions.size + 1) 0 none r
  let r := { r with versions := r.versions.extract 0 maxVersions }
  resume (r.versions.size + 1) 0 r.versions.size false least r

/-- Rounds until no version is left. -/
def rounds : Nat → Nat → Parse → Parse
  | 0, _, r => r
  | fuel + 1, reached, r =>
    if r.versions.isEmpty then r
    else
      let (reached, r) := advanceAll (r.versions.size + 100) 0 reached r
      let (least, r) := r.condense
      if r.finished.any fun t => least.all (t.price < ·) then { r with versions := #[] }
      else rounds fuel reached r

end Parse

/-- The tree of a text: the cheapest reading of it, broken where it has to be. -/
def read (table : Table) (s : Source) : Tree :=
  let r := Parse.rounds (100 + 20 * s.size) 0 (.opening table s)
  Tree.whole table.grammar s (r.finished.getD (Tree.leaf table.grammar s .broken 0 0 s.size 0))

theorem isLoose_read (table : Table) (s : Source) : (read table s).isLoose = false := Tree.isLoose_whole ..

end TypeCensus.Reading
