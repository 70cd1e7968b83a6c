import Std.Data.HashMap
import TypeCensus.Grammar.Lexicon
import TypeCensus.Grammar.Rule

/-!
# Production — flat productions from rules

`Outline.flat` turns the rules of an outline into flat productions.  A repetition becomes a helper
phrase with the productions `R → R R` and `R → body`; equal repetitions share one helper.  Every choice
inside a rule becomes a production of its own, and each step keeps the marks it stood under.
-/

namespace TypeCensus.Grammar

/-- A token, by number, or a phrase, by index. -/
inductive Symbol where
  | token (number : Nat)
  | phrase (index : Nat)
deriving BEq, Hashable, DecidableEq, Inhabited, Repr

/-- One symbol of a production with the marks it stands under. -/
structure Step where
  symbol : Symbol
  precedence : Option Int := none
  side : Option Side := none
  label : Option String := none
  guise : Option Guise := none
deriving BEq, Hashable, Inhabited, Repr

/-- A flat right-hand side. -/
structure Production where
  dynamic : Int := 0
  steps : Array Step := #[]
deriving BEq, Hashable, Inhabited, Repr

/-- A phrase as it is written down: a name and a rule. -/
structure Outline.Entry where
  name : String
  rule : Rule
  form : Form := .named
  /-- The phrase stands for its alternatives; its reductions are kept even when they change nothing. -/
  category : Bool := false
  /-- The phrase is replaced by its productions wherever it is used. -/
  inlined : Bool := false
deriving Inhabited, Repr

/-- A grammar as it is written down. -/
structure Outline where
  lexicon : Lexicon
  phrases : Array Outline.Entry
  /-- Tokens that may stand anywhere. -/
  extras : List String
deriving Inhabited, Repr

/-- A phrase with its productions. -/
structure Phrase where
  name : String
  form : Form
  category : Bool
  inlined : Bool
  /-- Made for a repetition. -/
  helper : Bool
  productions : Array Production
deriving Inhabited, Repr

/-- A grammar in flat form. Phrase `0` is the start phrase. -/
structure FlatGrammar where
  lexicon : Lexicon
  phrases : Array Phrase
  extras : List Nat
deriving Inhabited, Repr

namespace Rule

/-- Repetitions met so far, with the name of the helper of each, newest last. -/
abbrev Helpers := Array (Rule × String)

/-- Replaces repetitions by references to helper phrases; `owner` names the phrase that the rule is of. -/
def unrepeat (owner : String) : Rule → StateM (Helpers × Nat) Rule
  | seq a b => return seq (← unrepeat owner a) (← unrepeat owner b)
  | alt a b => return alt (← unrepeat owner a) (← unrepeat owner b)
  | mark m r => return mark m (← unrepeat owner r)
  | many1 r => do
    let body ← unrepeat owner r
    let (helpers, count) ← get
    match helpers.find? (·.1 == body) with
    | some (_, name) => return ref name
    | none =>
      let name := s!"{owner}_repeat{count + 1}"
      set (helpers.push (body, name), count + 1)
      return ref name
  | r => return r

/-- The choice-free readings of a repetition-free rule. -/
def readings : Rule → List Rule
  | seq a b => a.readings.flatMap fun x => b.readings.map (seq x)
  | alt a b => a.readings ++ b.readings
  | mark m r => r.readings.map (mark m)
  | r => [r]

/-- The marks that a step stands under. -/
structure Under where
  precedence : Option Int := none
  side : Option Side := none
  label : Option String := none
  guise : Option Guise := none

/-- The marks under `u`, overridden by `m`. -/
def Under.add (u : Under) (m : Mark) : Under where
  precedence := m.precedence <|> u.precedence
  side := m.side <|> u.side
  label := m.label <|> u.label
  guise := m.guise <|> u.guise

/-- Appends the steps of a choice-free rule to a production and says whether there were any. The last step
of a marked rule that does not end the whole rule takes its precedence and side from around the mark. -/
def append (lookup : Rule → Option Symbol) (u : Under) (ends : Bool) : Rule → Production →
    Production × Bool
  | nothing, p => (p, false)
  | seq a b, p =>
    let (p, pushedA) := a.append lookup u false p
    let (p, pushedB) := b.append lookup u ends p
    (p, pushedA || pushedB)
  | mark m r, p =>
    let p := if m.dynamic.natAbs > p.dynamic.natAbs then { p with dynamic := m.dynamic } else p
    let (p, pushed) := r.append lookup (u.add m) ends p
    if pushed && !ends then
      let last := p.steps.size - 1
      let steps := if m.precedence.isSome then
        p.steps.modify last ({ · with precedence := u.precedence }) else p.steps
      let steps := if m.side.isSome then steps.modify last ({ · with side := u.side }) else steps
      ({ p with steps }, pushed)
    else (p, pushed)
  | r, p =>
    match lookup r with
    | some symbol => ({ p with steps := p.steps.push { u with symbol } }, true)
    | none => (p, false)

/-- The flat productions of a rule, each once. -/
def productions (lookup : Rule → Option Symbol) (r : Rule) : Array Production :=
  r.readings.foldl (fun acc x =>
    let p := (x.append lookup {} true {}).1
    if acc.contains p then acc else acc.push p) #[]

end Rule

namespace Outline

/-- The rules without repetitions, and the helpers of all of them. -/
def unrepeated (o : Outline) : Array Rule × Rule.Helpers :=
  o.phrases.foldl (fun (rules, helpers) p =>
    let (r, helpers, _) := (p.rule.unrepeat p.name).run (helpers, 0)
    (rules.push r, helpers)) (#[], #[])

/-- What a reference or a literal stands for. Phrases hide token classes of the same name. -/
def lookup (o : Outline) (helpers : Rule.Helpers) : Rule → Option Symbol :=
  let classes := o.lexicon.classes.toList.zipIdx
  let phrases := o.phrases.toList.map (·.name) ++ helpers.toList.map (·.2)
  let names : Std.HashMap String Symbol :=
    .ofList (classes.map (fun (c, i) => (c.name, .token (i + 1))) ++
      phrases.zipIdx.map (fun (n, i) => (n, .phrase i)))
  let literals : Std.HashMap String Symbol :=
    .ofList (classes.filterMap fun (c, i) => c.literal?.map (·, .token (i + 1)))
  fun
    | .lit w => literals[w]?
    | .ref n => names[n]?
    | _ => none

/-- The flat form of an outline. -/
def flat (o : Outline) : FlatGrammar :=
  let (rules, helpers) := o.unrepeated
  let lookup := o.lookup helpers
  let written := (o.phrases.zip rules).map fun (p, r) =>
    ({ name := p.name, form := p.form, category := p.category, inlined := p.inlined, helper := false
       productions := r.productions lookup } : Phrase)
  let made := helpers.map fun (body, name) =>
    ({ name, form := .silent, category := false, inlined := false, helper := true
       productions := (Rule.alt (.seq (.ref name) (.ref name)) body).productions lookup } : Phrase)
  { lexicon := o.lexicon, phrases := written ++ made, extras := o.extras.filterMap o.lexicon.token? }

end Outline

namespace FlatGrammar

/-- The phrase with an index. -/
def phrase (g : FlatGrammar) (i : Nat) : Phrase := g.phrases[i]!

/-- Whether nodes of the symbol are not shown in a tree. -/
def isSilent (g : FlatGrammar) : Symbol → Bool
  | .token t => (g.lexicon.class? t).all (·.form == .silent)
  | .phrase i => (g.phrase i).form == .silent

end FlatGrammar

end TypeCensus.Grammar
