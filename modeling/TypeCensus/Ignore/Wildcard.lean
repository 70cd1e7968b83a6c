/-!
# Wildcard — patterns of ignore files

In a pattern `?` stands for one byte but a slash, `*` for any such bytes, `[...]` for one byte of a
set, `\x7b...,...\x7d` for one of several patterns, and `**` between slashes for any number of
components.  A backslash takes the next character as it is.  A bracket that is never closed, and
those after it, stand for themselves.
-/

namespace TypeCensus.Ignore

/-- A part of a pattern. -/
inductive Part where
  | char (c : Char)
  | anyByte
  | anyName
  /-- Nothing, or any components up to a slash. -/
  | leadingDirs
  /-- A slash and anything. -/
  | anythingBelow
  /-- A slash, or any components between two slashes. -/
  | innerDirs
  | set (negated : Bool) (ranges : List (Char × Char))
  | choice (branches : List (List Part))
deriving Inhabited, Repr

namespace Part

/-- Whether the part is `leadingDirs`. -/
def isLeadingDirs : Part → Bool
  | leadingDirs => true
  | _ => false

/-- Whether the part is `anythingBelow`. -/
def isAnythingBelow : Part → Bool
  | anythingBelow => true
  | _ => false

end Part

/-- A pattern read so far: the branches that are open, the innermost first, each with its last part first, and how
many were open before each brace. -/
structure Draft where
  branches : List (List Part) := [[]]
  braces : List Nat := []
  /-- A bracket was found that is never closed. -/
  openBracket : Bool := false
deriving Inhabited

namespace Draft

/-- Adds a part. -/
def push (d : Draft) (p : Part) : Draft :=
  match d.branches with
  | b :: bs => { d with branches := (p :: b) :: bs }
  | [] => { d with branches := [[p]] }

/-- Adds `*` twice. -/
def pushStars (d : Draft) : Draft := (d.push .anyName).push .anyName

/-- Whether the innermost branch has no part yet. -/
def isFresh (d : Draft) : Bool := (d.branches.head?).all List.isEmpty

/-- Opens a brace. -/
def openBrace (d : Draft) : Draft :=
  { d with branches := [] :: d.branches, braces := d.branches.length :: d.braces }

/-- Closes a brace. -/
def closeBrace? (d : Draft) : Option Draft :=
  match d.braces with
  | [] => none
  | n :: braces =>
    let inner := d.branches.take (d.branches.length - n)
    let outer := d.branches.drop (d.branches.length - n)
    some ({ d with branches := outer, braces }.push (.choice (inner.reverse.map List.reverse)))

/-- Adds what `**` after a slash stands for; it takes the slash with it. -/
def pushDirs (d : Draft) (last : Bool) : Draft :=
  match d.branches with
  | (p :: b) :: bs =>
    let new := if p.isLeadingDirs || p.isAnythingBelow then p else if last then .anythingBelow else .innerDirs
    { d with branches := (new :: b) :: bs }
  | _ => d

end Draft

/-- Reads the ranges of a set up to its closing bracket, the last one first: `none` if a range is backwards, and
`some none` if the bracket is never closed. -/
def readRanges (first span : Bool) (acc : List (Char × Char)) :
    List Char → Option (Option (List (Char × Char) × List Char))
  | [] => some none
  | c :: cs =>
    let extend (c : Char) :=
      match acc with
      | (lo, _) :: rest => if c < lo then none else readRanges false false ((lo, c) :: rest) cs
      | [] => readRanges false false [(c, c)] cs
    if c = ']' && !first then
      some (some (if span then ('-', '-') :: acc else acc, cs))
    else if c = '-' && !first then
      if span then extend '-' else readRanges false true acc cs
    else if span then extend c
    else readRanges false false ((c, c) :: acc) cs

/-- Reads what follows `**`: the draft with its parts, the last character read, and the rest. `before` is the
character before the stars. -/
def readStars (d : Draft) (before : Option Char) (rest : List Char) : Draft × Option Char × List Char :=
  if d.isFresh then
    match rest with
    | [] => (d.push .leadingDirs, none, [])
    | c :: cs => if c = '/' then (d.push .leadingDirs, some c, cs) else (d.pushStars, some '*', rest)
  else if before != some '/' &&
      (d.branches.length ≤ 1 || (before != some ',' && before != some '\x7b')) then
    (d.pushStars, some '*', rest)
  else
    match rest with
    | [] => (d.pushDirs true, none, [])
    | c :: cs =>
      if (c = ',' || c = '\x7d') && d.branches.length ≥ 2 then (d.pushDirs true, some '*', rest)
      else if c = '/' then (d.pushDirs false, some c, cs)
      else (d.pushStars, some '*', rest)

/-- Reads a pattern on; `before` is the last character read and `fuel` bounds the length of the rest. -/
def readParts : Nat → Draft → Option Char → List Char → Option Draft
  | 0, d, _, _ => some d
  | _ + 1, d, _, [] => some d
  | fuel + 1, d, before, c :: cs =>
    if c = '?' then readParts fuel (d.push .anyByte) (some c) cs
    else if c = '*' then
      match cs with
      | '*' :: rest =>
        let (d, before, rest) := readStars d before rest
        readParts fuel d before rest
      | _ => readParts fuel (d.push .anyName) (some c) cs
    else if c = '[' && !d.openBracket then
      let negated := cs.head? = some '!' || cs.head? = some '^'
      match readRanges true false [] (if negated then cs.tail else cs) with
      | none => none
      | some none => readParts fuel ({ d with openBracket := true }.push (.char '[')) (some c) cs
      | some (some (ranges, rest)) =>
        readParts fuel (d.push (.set negated ranges.reverse)) (some ']') rest
    else if c = '\x7b' then readParts fuel d.openBrace (some c) cs
    else if c = '\x7d' then
      match d.closeBrace? with
      | some d => readParts fuel d (some c) cs
      | none => none
    else if c = ',' && !d.braces.isEmpty then
      readParts fuel { d with branches := [] :: d.branches } (some c) cs
    else if c = '\\' then
      match cs with
      | e :: rest => readParts fuel (d.push (.char e)) (some e) rest
      | [] => none
    else readParts fuel (d.push (.char c)) (some c) cs

/-- The parts of a pattern, if it is well formed. -/
def readPattern (s : String) : Option (List Part) :=
  match readParts (s.length + 1) {} none s.toList with
  | some d =>
    match d.branches with
    | [b] => some b.reverse
    | _ => none
  | none => none

/-- The slash. -/
def slash : UInt8 := 47

/-- The bytes of a character. -/
def bytesOf (c : Char) : List UInt8 := (String.singleton c).toUTF8.data.toList

/-- The ends of some bytes. -/
def ends : List UInt8 → List (List UInt8)
  | [] => [[]]
  | b :: bs => (b :: bs) :: ends bs

/-- The ends after each slash. -/
def endsAfterSlash : List UInt8 → List (List UInt8)
  | [] => []
  | b :: bs => if b = slash then bs :: endsAfterSlash bs else endsAfterSlash bs

/-- The ends that are left when any bytes but slashes are read. -/
def endsInName : List UInt8 → List (List UInt8)
  | [] => [[]]
  | b :: bs => if b = slash then [b :: bs] else (b :: bs) :: endsInName bs

/-- Whether a byte is in a set: the ranges run over the bytes that the set is written with. -/
def inRanges (b : UInt8) (rs : List (Char × Char)) : Bool := rs.any fun (lo, hi) =>
  if lo = hi then (bytesOf lo).contains b
  else
    let los := bytesOf lo
    let his := bytesOf hi
    los.dropLast.contains b || his.tail.contains b ||
      (los.getLast?.any (· ≤ b) && his.head?.any (b ≤ ·))

mutual

/-- Whether a part can only stand for nothing because all its branches are empty. -/
def Part.isVoid : Part → Bool
  | .choice branches => allVoid branches
  | _ => false

/-- Whether all parts of a branch are void. -/
def isVoidBranch : List Part → Bool
  | [] => true
  | p :: ps => p.isVoid && isVoidBranch ps

/-- Whether all branches are void. -/
def allVoid : List (List Part) → Bool
  | [] => true
  | b :: bs => isVoidBranch b && allVoid bs

end

mutual

/-- What may be left of some bytes after a part. -/
def Part.rests : Part → List UInt8 → List (List UInt8)
  | .char c, bs => if (bytesOf c).isPrefixOf bs then [bs.drop (bytesOf c).length] else []
  | .anyByte, b :: bs => if b = slash then [] else [bs]
  | .anyByte, [] => []
  | .anyName, bs => endsInName bs
  | .leadingDirs, bs => bs :: endsAfterSlash bs
  | .anythingBelow, b :: bs => if b = slash then ends bs else []
  | .anythingBelow, [] => []
  | .innerDirs, b :: bs => if b = slash then bs :: endsAfterSlash bs else []
  | .innerDirs, [] => []
  | .set negated rs, b :: bs => if inRanges b rs != negated then [bs] else []
  | .set _ _, [] => []
  | .choice branches, bs => if allVoid branches then [bs] else branchRests branches bs

/-- What may be left of some bytes after the parts of a branch. -/
def restsOf : List Part → List UInt8 → List (List UInt8)
  | [], bs => [bs]
  | p :: ps, bs => (p.rests bs).flatMap (restsOf ps)

/-- What may be left of some bytes after one of several branches; void ones are left out. -/
def branchRests : List (List Part) → List UInt8 → List (List UInt8)
  | [], _ => []
  | b :: branches, bs => (if isVoidBranch b then [] else restsOf b bs) ++ branchRests branches bs

end

/-- Whether a pattern matches some bytes as a whole. A lone `**` matches everything. -/
def matchesBytes (ps : List Part) (bs : List UInt8) : Bool :=
  match ps with
  | [.leadingDirs] => true
  | _ => (restsOf ps bs).any List.isEmpty

end TypeCensus.Ignore
