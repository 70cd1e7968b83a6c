import TypeCensus.Grammar.Item

/-!
# Automaton — the states of a grammar

The canonical automaton with one token of lookahead.  A state is a set of items, each with the tokens that
may follow its production.  Where two actions of a state compete for a token, precedence decides, then the
side; what neither decides stays, and the token has several actions.
-/

namespace TypeCensus.Grammar

/-- What a state does when it sees a token. -/
inductive Action where
  /-- Read the token. An `again` step only begins another round of a repetition that can also end here. -/
  | shift (target : Nat) (again : Bool)
  /-- Read the token without changing state. -/
  | skip
  | reduce (phrase size shape : Nat) (dynamic : Int)
  | accept
  /-- Look for a state that can go on. -/
  | recover
deriving BEq, Inhabited, Repr

namespace FlatGrammar

/-- For every phrase, the tokens at one border of its productions; `pick` chooses the border. -/
def borderSets (g : FlatGrammar) (pick : Array Step → Option Step) : Array BitSet :=
  let round (acc : Array BitSet) : Array BitSet := g.phrases.mapIdx fun i p =>
    p.productions.foldl (fun s q =>
      match (pick q.steps).map Step.symbol with
      | some (.token t) => s.insert t
      | some (.phrase j) => s.union acc[j]!
      | none => s) acc[i]!
  let rec settle : Nat → Array BitSet → Array BitSet
    | 0, acc => acc
    | n + 1, acc =>
      let acc' := round acc
      if acc' == acc then acc else settle n acc'
  settle (g.phrases.size + 1) (g.phrases.map fun _ => .empty)

/-- The tokens that a phrase may begin with. -/
def firstSets (g : FlatGrammar) : Array BitSet := g.borderSets fun s => s[0]?

/-- The tokens that a phrase may end with. -/
def lastSets (g : FlatGrammar) : Array BitSet := g.borderSets fun s => s.back?

/-- The tokens of a symbol, given those of every phrase. -/
def tokensOf (sets : Array BitSet) : Symbol → BitSet
  | .token t => .single t
  | .phrase i => sets[i]!

end FlatGrammar

/-- An item that joins a state together with the phrase it begins: it is followed by `lookahead`, and by
what follows the phrase if `propagates`. -/
structure Companion where
  item : Nat
  lookahead : BitSet
  propagates : Bool
deriving Inhabited

/-- The items of a state as they arise from another state, in listing order, with their lookaheads. -/
abbrev Kernel := Array (Nat × BitSet)

namespace Kernel

/-- Brings the entries into listing order and joins those of one item. -/
def normal (k : Kernel) : Kernel :=
  (k.qsort fun a b => a.1 < b.1).foldl (fun acc e =>
    match acc.back? with
    | some last => if last.1 == e.1 then acc.pop.push (e.1, last.2.union e.2) else acc.push e
    | none => acc.push e) #[]

end Kernel

/-- What the construction of states asks about a grammar. -/
structure Blueprint where
  grammar : FlatGrammar
  table : ItemTable
  first : Array BitSet
  companions : Array (Array Companion)
deriving Inhabited

namespace Blueprint

/-- The phrases that can stand at the beginning of phrase `i`, with what follows them there. -/
def leading (g : FlatGrammar) (first : Array BitSet) (i : Nat) : Array (Nat × BitSet × Bool) := Id.run do
  let size := g.phrases.size
  let mut sets : Array BitSet := Array.replicate size .empty
  let mut passes : Array Bool := Array.replicate size false
  let mut todo : Array (Nat × Option BitSet) := #[(i, none)]
  let bound := size * size * g.lexicon.size
  for _ in [0:bound] do
    let some (v, follow) := todo.back? | break
    todo := todo.pop
    let grown := match follow with
      | none => !passes[v]!
      | some s => sets[v]!.union s != sets[v]!
    match follow with
    | none => passes := passes.set! v true
    | some s => sets := sets.modify v (·.union s)
    if grown then
      for q in (g.phrase v).productions do
        if let some (.phrase j) := q.steps[0]?.map Step.symbol then
          let below := match q.steps[1]? with
            | none => follow
            | some s => some (FlatGrammar.tokensOf first s.symbol)
          todo := todo.push (j, below)
  return ((Array.range size).zip (sets.zip passes)).filter fun (_, s, passes) => passes || !s.isEmpty

/-- The blueprint of a grammar. -/
def ofGrammar (g : FlatGrammar) : Blueprint :=
  let table := ItemTable.ofGrammar g
  let first := g.firstSets
  let companions := (Array.range g.phrases.size).map fun i =>
    (leading g first i).flatMap fun (v, lookahead, propagates) =>
      if g.isInlined (.phrase v) then #[]
      else table.openings[v]!.map fun item => { item, lookahead, propagates }
  { grammar := g, table, first, companions }

/-- All items of a state in listing order. -/
def closure (b : Blueprint) (kernel : Kernel) : Kernel := Id.run do
  let mut sets : Array BitSet := Array.replicate b.table.items.size .empty
  let mut met : Array Nat := #[]
  for (entry, lookahead) in kernel do
    for id in (b.table.items[entry]!).unfolded.getD #[entry] do
      if (sets[id]!).isEmpty then
        met := met.push id
      sets := sets.modify id (·.union lookahead)
      let item := b.table.items[id]!
      if let some (.phrase p) := item.next then
        let after := item.following.elim lookahead (FlatGrammar.tokensOf b.first)
        for c in b.companions[p]! do
          let joined := if c.propagates then c.lookahead.union after else c.lookahead
          if (sets[c.item]!).isEmpty then
            met := met.push c.item
          sets := sets.modify c.item (·.union joined)
  let sets' := sets
  return (met.qsort (· < ·)).map fun id => (id, sets'[id]!)

end Blueprint

/-- The actions of a state for one token while they are collected. -/
structure Contest where
  actions : Array Action := #[]
  /-- The precedence of the reductions, and the sides they group to. -/
  precedence : Option Int := none
  left : Bool := false
  right : Bool := false
  neither : Bool := false
  /-- Several actions compete. -/
  open? : Bool := false
deriving Inhabited

namespace Contest

/-- Compares precedences; an absent one is zero, and two zeros do not compare. -/
def comparePrecedence (a b : Option Int) : Ordering := compare (a.getD 0) (b.getD 0)

/-- Adds a reduction: it joins those of equal precedence, replaces lower ones, and yields to higher ones. -/
def reduce (c : Contest) (action : Action) (precedence : Option Int) (side : Option Side) : Contest :=
  let join (c : Contest) : Contest :=
    { c with
      actions := c.actions.push action, precedence
      left := c.left || side == some .left, right := c.right || side == some .right
      neither := c.neither || side.isNone }
  if c.actions.isEmpty then join c
  else match comparePrecedence precedence c.precedence with
    | .gt => join {}
    | .eq => { join c with open? := true }
    | .lt => c

/-- Adds the step that reads the token. -/
def shift (c : Contest) (target : Nat) : Contest :=
  { c with actions := c.actions.push (.shift target false), open? := c.open? || !c.actions.isEmpty }

/-- Settles between reading the token and reducing. `shifts` are the precedences of the items that read it;
`repeated` says that only rounds of one repetition compete. -/
def settle (c : Contest) (shifts : List (Option Int)) (repeated : Bool) : Array Action :=
  match c.actions.back? with
  | some (.shift target _) =>
    if repeated then c.actions.pop.push (.shift target true)
    else
      let orders := shifts.map (comparePrecedence · c.precedence)
      let above := orders.contains .gt
      let below := orders.contains .lt
      if above && !below then #[.shift target false]
      else if below && !above then c.actions.pop
      else if above || below then c.actions
      else if c.left && !c.right && !c.neither then c.actions.pop
      else if c.right && !c.left && !c.neither then #[.shift target false]
      else c.actions
  | _ => c.actions

end Contest

/-- A state of an automaton. States with the same items, lookaheads aside, have one core. -/
structure State where
  core : Nat
  /-- The actions for every token. -/
  actions : Array (Array Action)
  /-- The state after a phrase, by increasing phrase. -/
  gotos : Array (Nat × Nat)
deriving Inhabited

/-- The states of a grammar. State `0` is for broken text, state `1` begins. -/
structure Automaton where
  states : Array State
  cores : Nat
deriving Inhabited

/-- The states found so far. -/
structure Automaton.Found where
  kernels : Array Kernel := #[]
  coreOf : Array Nat := #[]
  ids : Std.HashMap Kernel Nat := {}
  cores : Std.HashMap (Array Nat) Nat := {}

namespace Automaton.Found

/-- The state of a kernel, new if need be. -/
def state (f : Found) (k : Kernel) : Nat × Found :=
  match f.ids[k]? with
  | some id => (id, f)
  | none =>
    let id := f.kernels.size
    let items := k.map (·.1)
    let core := f.cores.getD items f.cores.size
    (id, { kernels := f.kernels.push k, coreOf := f.coreOf.push core
           ids := f.ids.insert k id, cores := f.cores.insert items core })

end Automaton.Found

namespace Automaton

/-- The entries that read each symbol, advanced over it: by token and by phrase. -/
def successors (b : Blueprint) (entries : Kernel) : Array Kernel × Array Kernel := Id.run do
  let mut tokens : Array Kernel := Array.replicate b.grammar.lexicon.size #[]
  let mut phrases : Array Kernel := Array.replicate b.grammar.phrases.size #[]
  for (id, lookahead) in entries do
    let item := b.table.items[id]!
    match item.next with
    | some (.token t) => tokens := tokens.modify t (·.push (item.advanced, lookahead))
    | some (.phrase p) => phrases := phrases.modify p (·.push (item.advanced, lookahead))
    | none => pure ()
  return (tokens.map Kernel.normal, phrases.map Kernel.normal)

/-- The reductions of a state, by token. -/
def reductions (b : Blueprint) (entries : Kernel) : Array Contest := Id.run do
  let size := b.grammar.lexicon.size
  let mut contests : Array Contest := Array.replicate size {}
  for (id, lookahead) in entries do
    let item := b.table.items[id]!
    if item.next.isNone then
      let action := if item.phrase = b.grammar.phrases.size then .accept
        else .reduce item.phrase item.size item.shape item.dynamic
      for t in [0:size] do
        if lookahead.contains t then
          contests := contests.modify t (·.reduce action item.precedence item.side)
  return contests

/-- The phrases of the items that compete for a token, and the precedences of those that read it. -/
def rivals (b : Blueprint) (entries : Kernel) (token : Nat) : List Nat × List (Option Int) :=
  entries.foldl (fun (phrases, shifts) (id, lookahead) =>
    let item := b.table.items[id]!
    match item.next with
    | some s =>
      if item.dot > 0 && (FlatGrammar.tokensOf b.first s).contains token then
        (item.phrase :: phrases, item.precedence :: shifts)
      else (phrases, shifts)
    | none => if lookahead.contains token then (item.phrase :: phrases, shifts) else (phrases, shifts))
    ([], [])

/-- Whether all the phrases are one helper. -/
def isRepetition (g : FlatGrammar) (phrases : List Nat) : Bool :=
  match phrases with
  | p :: rest => p < g.phrases.size && (g.phrase p).helper && rest.all (· == p)
  | [] => false

/-- The actions of a state. -/
def settled (b : Blueprint) (entries : Kernel) (contests : Array Contest) : Array (Array Action) :=
  contests.mapIdx fun t c =>
    let actions := if c.open? then
        let (phrases, shifts) := rivals b entries t
        c.settle shifts (isRepetition b.grammar phrases)
      else c.actions
    if actions.isEmpty && b.grammar.extras.contains t then #[.skip] else actions

/-- The automaton of a blueprint; `bound` bounds the number of its states. -/
def ofBlueprint (b : Blueprint) (bound : Nat) : Automaton := Id.run do
  let (_, found) := ({} : Found).state #[]
  let (_, found) := found.state #[(b.table.start, .single 0)]
  let mut found := found
  let mut states : Array State := #[]
  for n in [0:bound] do
    let some kernel := found.kernels[n]? | break
    let entries := b.closure kernel
    let (tokens, phrases) := successors b entries
    let mut contests := reductions b entries
    for k in tokens, t in [0:tokens.size] do
      if !k.isEmpty then
        let (target, found') := found.state k
        found := found'
        contests := contests.modify t (·.shift target)
    let mut gotos : Array (Nat × Nat) := #[]
    for k in phrases, p in [0:phrases.size] do
      if !k.isEmpty then
        let (target, found') := found.state k
        found := found'
        gotos := gotos.push (p, target)
    states := states.push { core := found.coreOf[n]!, actions := settled b entries contests, gotos }
  return { states, cores := found.cores.size }

end Automaton

end TypeCensus.Grammar
