import TypeCensus.Reading.Versions

/-!
# Tokens — the next token of a version

A token is scanned in the mode of the version's row; where that finds nothing, in the mode for broken
text, skipping characters until a token is found.  A word is a keyword only where the row can use the keyword.
-/

namespace TypeCensus.Reading

open TypeCensus.Grammar
open TypeCensus.Text (Source)

namespace Parse

variable (r : Parse)

/-- The node that the mode of a row begins at. -/
def modeOf (row : Nat) : Nat := r.table.modes[(r.table.rows[row]!).mode]!

/-- Scans in the mode of a row. -/
def scan (row pos : Nat) : Scan := r.table.scanner.scan r.source (r.modeOf row) pos

/-- A token of the grammar. -/
def leaf (kind : Kind) (begin start stop row : Nat) : Tree :=
  Tree.leaf r.grammar r.source kind begin start stop row

/-- Where the broken text that begins at a scan without a token ends: at the next token, or at the end. The
last position already skipped comes first; `fuel` bounds the characters that are left. -/
def brokenUntil : Nat → Nat → Nat → Nat
  | 0, skipped, _ => skipped
  | fuel + 1, skipped, cursor =>
    let step := if cursor = skipped then cursor + 1 else cursor
    if cursor = skipped && r.source.size ≤ cursor then skipped
    else
      let s := r.scan 0 step
      if s.found.isSome then step else brokenUntil fuel step s.cursor

/-- The token of a scan, a word looked up among the keywords. -/
def tokenOf (row pos : Nat) (s : Scan) (token stop : Nat) : Tree :=
  let whole := r.leaf (.symbol (.token token)) pos s.start stop row
  if token = r.grammar.lexicon.wordToken then
    match (r.table.scanner.scan r.source r.table.keywordNode s.start).found with
    | some (keyword, stop') =>
      let usable := stop' = stop && !(r.actions row keyword).isEmpty
      let t := if usable then r.leaf (.symbol (.token keyword)) pos s.start stop row else whole
      t.asKeyword
    | none => whole
  else if token = 0 then whole.asExtra true
  else whole

/-- The next token in a row from a position. -/
def nextToken (row pos : Nat) : Tree :=
  let s := r.scan row pos
  match s.found with
  | some (token, stop) => r.tokenOf row pos s token stop
  | none =>
    let s := if row = 0 then s else r.scan 0 pos
    match s.found with
    | some (token, stop) => r.tokenOf row pos s token stop
    | none => r.leaf .broken pos s.start (r.brokenUntil (r.source.size + 1) s.start s.cursor) row

/-- Whether a token that was scanned for another version serves a row that has the given actions on it. -/
def serves (row : Nat) (t : Tree) (actions : Array Action) : Bool :=
  let i := t.info
  match i.kind with
  | .symbol (.token k) =>
    let sameMode := (r.table.rows[row]!).mode == (r.table.rows[i.row]!).mode
    let settled := k != r.grammar.lexicon.wordToken || (!i.keyword && i.row == row)
    if !actions.isEmpty && sameMode && settled then true
    else if i.bytes = 0 && k != 0 then false
    else ((r.table.rows[row]!).reusable).contains k
  | _ => false

/-- The next token of a version, scanned anew only if the last one does not serve. -/
def peek (v : Nat) : Tree × Parse :=
  let n := r.top v
  let known := r.scanned.bind fun (pos, t) =>
    if pos = n.pos && r.serves n.row t (r.actionsOn n.row t) then some t else none
  match known with
  | some t => (t, r)
  | none =>
    let t := r.nextToken n.row n.pos
    (t, { r with scanned := some (n.pos, t) })

end Parse

end TypeCensus.Reading
