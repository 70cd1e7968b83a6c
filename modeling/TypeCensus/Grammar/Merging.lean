import TypeCensus.Grammar.Clash

/-!
# Merging — fewer states

States of one core become one state unless their actions differ, a token of one clashes with the tokens of the
other, or their successors stay apart.  Steps through silent phrases of one symbol are then cut short, states that
nothing leads to are dropped, and the rest are listed by size.
-/

namespace TypeCensus.Grammar

/-- The state that an action leads to. -/
def Action.target? : Action → Option Nat
  | .shift target _ => some target
  | _ => none

/-- The action with the state that it leads to replaced. -/
def Action.retarget (f : Nat → Nat) : Action → Action
  | .shift target again => .shift (f target) again
  | a => a

namespace State

/-- The tokens that the state has actions for. -/
def tokens (s : State) : BitSet :=
  (s.actions.foldl (fun (set, t) cell => (if cell.isEmpty then set else set.insert t, t + 1))
    (BitSet.empty, 0)).1

/-- The states after the tokens that are read last of all actions, by increasing token. -/
def shifts (s : State) : List (Nat × Nat) :=
  (s.actions.toList.zipIdx).filterMap fun (cell, t) => (cell.back?.bind Action.target?).map (t, ·)

/-- The state with the states that it leads to replaced. -/
def retarget (f : Nat → Nat) (s : State) : State :=
  { s with
    actions := s.actions.map fun cell => if cell.isEmpty then cell else cell.map (·.retarget f)
    gotos := s.gotos.map fun (p, target) => (p, f target) }

/-- The state after a phrase. -/
def goto? (s : State) (phrase : Nat) : Option Nat := (s.gotos.find? (·.1 == phrase)).map (·.2)

end State

/-- States in groups. -/
structure Grouping where
  /-- The group of each state. -/
  group : Array Nat
  members : Array (List Nat)
deriving Inhabited

namespace Grouping

/-- Those that agree with every one kept before them, and the others. -/
def divide (differ : Nat → Nat → Bool) : List Nat → List Nat × List Nat
  | [] => ([], [])
  | s :: rest =>
    let out := rest.filter (differ s)
    let (kept, out') := divide differ (rest.filter fun t => !differ s t)
    (s :: kept, out ++ out')
termination_by states => states.length
decreasing_by
  simp only [List.length_unattach, List.length_cons]
  exact Nat.lt_succ_of_le (Nat.le_trans (List.length_filter_le ..) (by simp))

/-- The states by core. -/
def byCore (a : Automaton) : Grouping where
  group := a.states.map (·.core)
  members := (a.states.foldl (fun (ms, i) s => (ms.modify s.core (i :: ·), i + 1))
    (Array.replicate a.cores [], 0)).1.map List.reverse

/-- Divides every group once, new groups included, and says whether any fell apart. -/
def split (differ : Array Nat → Nat → Nat → Bool) (g : Grouping) : Grouping × Bool := Id.run do
  let mut group := g.group
  let mut members := g.members
  let mut changed := false
  for i in [0:g.group.size] do
    let some states := members[i]? | break
    if states.length > 1 then
      let (kept, out) := divide (differ group) states
      if !out.isEmpty then
        changed := true
        for s in out do
          group := group.set! s members.size
        members := (members.set! i kept).push out
  return (⟨group, members⟩, changed)

/-- Divides until nothing falls apart. -/
def settle (differ : Array Nat → Nat → Nat → Bool) : Nat → Grouping → Grouping
  | 0, g => g
  | fuel + 1, g =>
    match g.split differ with
    | (g, true) => settle differ fuel g
    | (g, false) => g

end Grouping

/-- What decides which states may be merged. -/
structure Merging where
  automaton : Automaton
  /-- The tokens of each state. -/
  tokens : Array BitSet
  /-- For every token, the tokens it may not newly meet. -/
  barred : Array BitSet
  shifts : Array (List (Nat × Nat))
  gotos : Array (List (Nat × Nat))
  allTokens : List Nat

namespace Merging

/-- Whether two cells act differently. -/
def cellsDiffer (group : Array Nat) (xs ys : Array Action) : Bool :=
  xs.size != ys.size || (xs.zip ys).any fun
    | (.shift a again, .shift b again') => group[a]! != group[b]! || again != again'
    | (x, y) => x != y

/-- Whether two states act differently on a token, or a token of one clashes with those of the other. -/
def actionsDiffer (m : Merging) (group : Array Nat) (s t : Nat) : Bool :=
  let xs := (m.automaton.states[s]!).actions
  let ys := (m.automaton.states[t]!).actions
  m.allTokens.any fun k =>
    let x := xs[k]!
    let y := ys[k]!
    if x.isEmpty then !y.isEmpty && (m.barred[k]!).meets m.tokens[s]!
    else if y.isEmpty then (m.barred[k]!).meets m.tokens[t]!
    else cellsDiffer group x y

/-- Whether two lists, each by increasing first parts, lead from one first part to different groups. -/
def apart (group : Array Nat) : List (Nat × Nat) → List (Nat × Nat) → Bool
  | x :: xs, y :: ys =>
    if x.1 < y.1 then apart group xs (y :: ys)
    else if y.1 < x.1 then apart group (x :: xs) ys
    else group[x.2]! != group[y.2]! || apart group xs ys
  | _, _ => false
termination_by xs ys => xs.length + ys.length

/-- Whether two states lead to different groups. -/
def successorsDiffer (m : Merging) (group : Array Nat) (s t : Nat) : Bool :=
  apart group m.shifts[s]! m.shifts[t]! || apart group m.gotos[s]! m.gotos[t]!

/-- The merging of an automaton. `keywords` may newly meet the token they are cut from. -/
def ofAutomaton (a : Automaton) (x : Lexicon) (c : Clash) (keywords : BitSet) : Merging where
  automaton := a
  tokens := a.states.map State.tokens
  barred := (Array.range x.size).map fun t =>
    if t = 0 then .empty
    else BitSet.ofList <| ((c.conflicts t).toList x.size).filter fun u =>
      u != t && !(t == x.wordToken && keywords.contains u) && !(u == x.wordToken && keywords.contains t)
  shifts := a.states.map State.shifts
  gotos := a.states.map (·.gotos.toList)
  allTokens := List.range x.size

/-- The groups of states that become one. -/
def groups (m : Merging) : Grouping :=
  let g := ((Grouping.byCore m.automaton).split m.actionsDiffer).1
  g.settle m.successorsDiffer m.automaton.states.size

/-- The merged states; the first two stay first. -/
def merged (m : Merging) : Array State :=
  let g := m.groups
  let first := [g.group[0]!, g.group[1]!]
  let order := first ++ (List.range g.members.size).filter fun i => !first.contains i
  let number := (order.zipIdx).foldl (fun ns (i, n) => ns.set! i n) (Array.replicate g.members.size 0)
  let states := order.map fun i => (g.members[i]!).map fun s => m.automaton.states[s]!
  (states.filterMap fun ss => ss.head?.map fun s =>
    let join (xs ys : Array (Array Action)) := (xs.zip ys).map fun (x, y) => if y.isEmpty then x else y
    ({ s with actions := ss.foldl (fun acc s' => join acc s'.actions) s.actions } : State).retarget
      fun t => number[g.group[t]!]!).toArray

end Merging

namespace State

/-- The silent phrase of one symbol that every action of the state reduces to, if there is one. -/
def unitPhrase? (eligible : Nat → Bool) (s : State) : Option Nat :=
  s.actions.foldl (fun found cell => cell.foldl (fun found a =>
    match found, a with
    | found, .skip => found
    | some none, .reduce p 1 0 0 => if eligible p then some (some p) else none
    | some (some q), .reduce p 1 0 0 => if p = q then found else none
    | _, _ => none) found) (some none) |>.bind id

end State

/-- The target past the states that only reduce to a silent phrase; `fuel` bounds their number. -/
def pastUnits (units : Array (Option Nat)) (s : State) : Nat → Nat → Nat
  | 0, target => target
  | fuel + 1, target =>
    match units[target]! with
    | some p => (s.goto? p).elim target fun t => if t = target then t else pastUnits units s fuel t
    | none => target

/-- Cuts steps through silent phrases of one symbol short. -/
def withoutUnits (g : FlatGrammar) (states : Array State) : Array State :=
  let steps := g.phrases.flatMap fun p => p.productions.flatMap (·.steps)
  let guised (p : Nat) := steps.any fun s => s.symbol == .phrase p && s.guise.isSome
  let eligible := (Array.range g.phrases.size).map fun p =>
    (g.phrase p).form == .silent && !(g.phrase p).category && !guised p
  let units := states.map (·.unitPhrase? fun p => eligible[p]!)
  states.map fun s => s.retarget (pastUnits units s states.size)

/-- Keeps the listed states, in that order. -/
def relist (states : Array State) (order : Array Nat) : Array State :=
  let number := (order.zipIdx).foldl (fun ns (i, n) => ns.set! i n) (Array.replicate states.size 0)
  order.map fun i => (states[i]!).retarget fun t => number[t]!

/-- Drops the states that nothing leads to. -/
def withoutUnused (states : Array State) : Array State :=
  let used := states.foldl (fun used s =>
    let used := s.actions.foldl (fun used cell => cell.foldl (fun used a =>
      match a.target? with
      | some t => used.set! t true
      | none => used) used) used
    s.gotos.foldl (fun used (_, t) => used.set! t true) used)
    ((Array.replicate states.size false).set! 0 true |>.set! 1 true)
  relist states ((Array.range states.size).filter fun i => used[i]!)

/-- Lists the states by decreasing size; the first two stay first. -/
def bySize (states : Array State) : Array State :=
  let size (s : State) : Nat :=
    s.actions.foldl (fun n cell => if cell.isEmpty then n else n + 1) s.gotos.size
  let sizes := states.map size
  let rest := ((List.range states.size).drop 2).mergeSort fun i j => sizes[j]! ≤ sizes[i]!
  relist states (#[0, 1] ++ rest.toArray)

end TypeCensus.Grammar
