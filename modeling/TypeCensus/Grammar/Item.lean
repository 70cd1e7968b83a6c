import TypeCensus.Grammar.Production
import TypeCensus.Grammar.BitSet

/-!
# Item — productions with a position

An item is a production read up to a dot.  Items that agree on everything that the rest of the table can
show (what is left to read, the length, the marks around the dot, the labels and guises passed) are one
item, whichever production they come from.  `ItemTable.ofGrammar` numbers all items of a grammar in the order in
which a state lists them.
-/

namespace TypeCensus.Grammar

/-- What an action of a table says about the tree it builds: the labels and guises of the children. -/
structure Shape where
  labels : List (Option String)
  guises : List (Option Guise)
  /-- Labels that children pass on from silent phrases, by position. -/
  passedOn : List (List String)
deriving BEq, Hashable, Inhabited, Repr

/-- Everything about an item that a table can show. -/
structure ItemKey where
  dot : Nat
  phrase : Nat
  dynamic : Int
  size : Nat
  precedence : Option Int
  side : Option Side
  inherits : Bool
  past : List (Option Guise × Option String × Option Symbol)
  future : List Step
deriving BEq, Hashable, Inhabited

namespace ItemKey

/-- Absent before present, then by `f`. -/
def onOption {α : Type} (f : α → α → Ordering) : Option α → Option α → Ordering
  | none, none => .eq
  | none, some _ => .lt
  | some _, none => .gt
  | some a, some b => f a b

/-- Lexicographic order. -/
def onList {α : Type} (f : α → α → Ordering) : List α → List α → Ordering
  | [], [] => .eq
  | [], _ :: _ => .lt
  | _ :: _, [] => .gt
  | a :: as, b :: bs => (f a b).then (onList f as bs)

/-- Left before right. -/
def onSide (a b : Side) : Ordering := compare (a == .right) (b == .right)

/-- By kind, plain before named. -/
def onGuise (a b : Guise) : Ordering := (compare a.kind b.kind).then (compare a.named b.named)

/-- Tokens before phrases, each by number. -/
def onSymbol : Symbol → Symbol → Ordering
  | .token a, .token b => compare a b
  | .token _, .phrase _ => .lt
  | .phrase _, .token _ => .gt
  | .phrase a, .phrase b => compare a b

/-- By symbol, then by marks. -/
def onStep (a b : Step) : Ordering :=
  (onSymbol a.symbol b.symbol).then <| (onOption compare a.precedence b.precedence).then <|
    (onOption onSide a.side b.side).then <| (onOption onGuise a.guise b.guise).then <|
    onOption compare a.label b.label

/-- The order in which a state lists its items. -/
def order (a b : ItemKey) : Ordering :=
  (compare a.dot b.dot).then <| (compare a.phrase b.phrase).then <|
    (compare a.dynamic b.dynamic).then <| (compare a.size b.size).then <|
    (onOption compare a.precedence b.precedence).then <| (onOption onSide a.side b.side).then <|
    (compare a.inherits b.inherits).then <|
    (onList (fun x y => (onOption onGuise x.1 y.1).then (onOption compare x.2.1 y.2.1))
      a.past b.past).then <|
    onList onStep a.future b.future

end ItemKey

/-- An item, with what the construction of states asks about it. -/
structure Item where
  phrase : Nat
  dot : Nat
  size : Nat
  dynamic : Int
  precedence : Option Int
  side : Option Side
  /-- The symbol after the dot. -/
  next : Option Symbol
  /-- The symbol after that. -/
  following : Option Symbol
  /-- The item after reading `next`. -/
  advanced : Nat
  /-- The items that stand for this one when `next` is inlined. -/
  unfolded : Option (Array Nat)
  shape : Nat
deriving Inhabited

/-- The items of a grammar. -/
structure ItemTable where
  items : Array Item
  /-- The items that begin a production of a phrase. -/
  openings : Array (Array Nat)
  /-- The item before the start phrase. -/
  start : Nat
  shapes : Array Shape
  /-- All productions, those made by inlining included. -/
  productions : Array Production
deriving Inhabited

namespace FlatGrammar

/-- Whether the productions of the symbol are put in its place. -/
def isInlined (g : FlatGrammar) : Symbol → Bool
  | .token _ => false
  | .phrase i => (g.phrase i).inlined

/-- The labels that a silent phrase passes on to its parent, for every phrase: the least solution, found by
as many rounds as there are phrases. -/
def passedLabels (g : FlatGrammar) : Array (List String) :=
  let round (acc : Array (List String)) : Array (List String) :=
    g.phrases.map fun p => p.productions.foldl (fun ls q => q.steps.foldl (fun ls s =>
      let own := s.label.toList
      let inner := match s.symbol with
        | .phrase i =>
          if g.isSilent s.symbol && s.guise.isNone && !(g.phrase i).category then acc[i]! else []
        | .token _ => []
      (own ++ inner).foldl (fun ls l => if ls.contains l then ls else l :: ls) ls) ls) []
  let rec settle : Nat → Array (List String) → Array (List String)
    | 0, acc => acc
    | n + 1, acc =>
      let acc' := round acc
      if acc'.map (·.length) == acc.map (·.length) then acc' else settle n acc'
  settle (g.phrases.size + 1) (g.phrases.map fun _ => [])

/-- The productions that stand for `p` when the symbols at `dot` are inlined; `depth` bounds how often one
inlined phrase may begin with another. -/
def unfold (g : FlatGrammar) (p : Production) (dot : Nat) : Nat → List Production
  | 0 => [p]
  | depth + 1 =>
    match p.steps[dot]? with
    | some s =>
      match s.symbol with
      | .phrase i =>
        if (g.phrase i).inlined then
          (g.phrase i).productions.toList.flatMap fun q =>
            let inner := q.steps.map fun t =>
              { t with guise := s.guise <|> t.guise, label := s.label <|> t.label }
            let inner := inner.modify (inner.size - 1) fun t =>
              { t with precedence := t.precedence <|> s.precedence, side := t.side <|> s.side }
            let dynamic := if q.dynamic.natAbs > p.dynamic.natAbs then q.dynamic else p.dynamic
            g.unfold { dynamic, steps := p.steps.take dot ++ inner ++ p.steps.drop (dot + 1) } dot depth
        else [p]
      | .token _ => [p]
    | none => [p]

/-- The shape of the nodes that a production builds. -/
def shapeOf (g : FlatGrammar) (passed : Array (List String)) (p : Production) : Shape :=
  let trimmed := (p.steps.toList.map (·.guise)).reverse.dropWhile Option.isNone |>.reverse
  { labels := (p.steps.toList.map (·.label)).reverse.dropWhile Option.isNone |>.reverse
    guises := trimmed
    passedOn := (p.steps.toList.map fun s =>
      match s.symbol with
      | .phrase i => if g.isSilent s.symbol then (passed[i]!).mergeSort (· ≤ ·) else []
      | .token _ => []).reverse.dropWhile List.isEmpty |>.reverse }

end FlatGrammar

/-- A production with the phrase it is of and, by position, the productions that unfold it there. -/
structure Unfolding where
  phrase : Nat
  production : Production
  unfoldings : Array (Option (Array Nat))
deriving Inhabited

namespace Unfolding

/-- All productions of a grammar and of the start, each followed by those that unfold it. A production is
unfolded at the first inlined symbol that it reaches; the productions put in its place go on from there. -/
def ofGrammar (g : FlatGrammar) : Array Unfolding := Id.run do
  let mut all : Array Unfolding := #[]
  let mut todo : Array (Nat × Nat) := #[]
  for p in g.phrases, i in [0:g.phrases.size] do
    for q in p.productions do
      todo := todo.push (all.size, 0)
      all := all.push ⟨i, q, Array.replicate (q.steps.size + 1) none⟩
  let start : Production := { steps := #[{ symbol := .phrase 0 }] }
  all := all.push ⟨g.phrases.size, start, #[none, none]⟩
  let bound := 64 * (all.size + 1)
  for n in [0:bound] do
    let some (u, first) := todo[n]? | break
    let steps := all[u]!.production.steps
    let reached := (List.range steps.size).find? fun d => d ≥ first && g.isInlined steps[d]!.symbol
    if let some d := reached then
      let mut ids := #[]
      for q in g.unfold all[u]!.production d g.phrases.size do
        ids := ids.push all.size
        todo := todo.push (all.size, d)
        all := all.push ⟨all[u]!.phrase, q, Array.replicate (q.steps.size + 1) none⟩
      let ids' := ids
      all := all.modify u fun x => { x with unfoldings := x.unfoldings.set! d (some ids') }
  return all

end Unfolding

namespace ItemTable

/-- The key of a position in a production. -/
def keyOf (u : Unfolding) (dot : Nat) (inherits : Bool) : ItemKey :=
  let steps := u.production.steps
  let last := if dot = 0 then none else steps[dot - 1]?
  { dot, phrase := u.phrase, dynamic := u.production.dynamic, size := steps.size
    precedence := last.bind (·.precedence), side := last.bind (·.side), inherits
    past := (steps.toList.take dot).map fun s =>
      (s.guise, s.label, if inherits then some s.symbol else none)
    future := steps.toList.drop dot }

/-- The items of a grammar, numbered in the order in which a state lists them. -/
def ofGrammar (g : FlatGrammar) : ItemTable := Id.run do
  let all := Unfolding.ofGrammar g
  let passed := g.passedLabels
  -- one class per key, with the first position that has it
  let mut classOf : Std.HashMap ItemKey Nat := {}
  let mut firsts : Array (ItemKey × Nat × Nat × Bool) := #[]
  let mut offsets : Array Nat := #[]
  let mut classes : Array Nat := #[]
  for u in all, i in [0:all.size] do
    offsets := offsets.push classes.size
    for dot in [0:u.production.steps.size + 1] do
      -- past an inlined symbol the items of the unfoldings take over
      let live := (u.production.steps.take dot).all fun s => !g.isInlined s.symbol
      for inherits in [false, true] do
        if !live then
          classes := classes.push 0
          continue
        let key := keyOf u dot inherits
        match classOf[key]? with
        | some c => classes := classes.push c
        | none =>
          classOf := classOf.insert key firsts.size
          classes := classes.push firsts.size
          firsts := firsts.push (key, i, dot, inherits)
  -- number the classes in listing order
  let sorted := (List.range firsts.size).mergeSort fun a b =>
    (firsts[a]!.1.order firsts[b]!.1).isLE
  let mut number : Array Nat := Array.replicate firsts.size 0
  for c in sorted, n in [0:firsts.size] do
    number := number.set! c n
  let idOf (u dot : Nat) (inherits : Bool) : Nat :=
    number[classes[offsets[u]! + 2 * dot + (if inherits then 1 else 0)]!]!
  let mut shapes : Array Shape := #[⟨[], [], []⟩]
  let mut items : Array Item := #[]
  for c in sorted do
    let (key, i, dot, inherits) := firsts[c]!
    let u := all[i]!
    let steps := u.production.steps
    let next := steps[dot]?.map (·.symbol)
    let passes := match next with
      | some (.phrase q) => g.isSilent (.phrase q) && !(passed[q]!).isEmpty
      | _ => false
    let shape := g.shapeOf passed u.production
    let shapeId := (shapes.findIdx? (· == shape)).getD shapes.size
    if shapeId = shapes.size then
      shapes := shapes.push shape
    items := items.push {
      phrase := key.phrase, dot, size := key.size, dynamic := key.dynamic
      precedence := key.precedence, side := key.side, next
      following := steps[dot + 1]?.map (·.symbol)
      advanced := if next.isSome then idOf i (dot + 1) (inherits || passes) else 0
      unfolded := (u.unfoldings[dot]!).map fun ids => ids.map fun v => idOf v dot inherits
      shape := shapeId }
  -- the opening items of each phrase, inlined symbols unfolded
  let mut openings : Array (Array Nat) := Array.replicate g.phrases.size #[]
  let mut u := 0
  for p in g.phrases, i in [0:g.phrases.size] do
    for _ in p.productions do
      let here := idOf u 0 false
      openings := openings.modify i (· ++ ((items[here]!).unfolded.getD #[here]))
      u := u + 1
  return { items, openings, start := idOf u 0 false, shapes
           productions := all.map (·.production) }

end ItemTable

end TypeCensus.Grammar
