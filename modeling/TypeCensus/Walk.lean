import TypeCensus.Disk
import TypeCensus.Glob
import TypeCensus.Ignore.Own

/-!
# Walk — the sources below a directory

The walk goes through a directory in the order of names, each directory in the place of its name.  Ignore files in
every directory, and in those above the root, can keep entries out; nothing below an ignored directory is looked at.
Of the rules about an entry those of `.ignore` files come first, then those of `.gitignore`, then the excludes of a
repository, and of each kind the file nearest to the entry decides.  Where none of them says anything, the user's own
rules do.
-/

namespace TypeCensus

open Ignore (Rule Verdict)

/-- What a walk takes into account. -/
structure WalkOptions where
  /-- Entries whose names begin with a dot are walked too. -/
  hidden : Bool := true
  /-- The rules of `.gitignore` files count. -/
  gitIgnore : Bool := true
deriving BEq, DecidableEq, Inhabited, Repr

namespace Walk

/-- The rules that stand in one directory, and the path of the directory. -/
structure Layer where
  base : List Char
  ignoreRules : List Rule := []
  gitRules : List Rule := []
  excludeRules : List Rule := []
deriving Inhabited

/-- The rules of the ignore file some names below a directory. -/
def rulesAt (dir : Entry) (names : List String) : List Rule :=
  match (dir.descend names).bind Entry.content? with
  | some content => Ignore.readRules content
  | none => []

/-- The rules that stand in a directory. -/
def Layer.ofDir (o : WalkOptions) (base : String) (dir : Entry) : Layer where
  base := base.toList
  ignoreRules := rulesAt dir [".ignore"]
  gitRules := if o.gitIgnore then rulesAt dir [".gitignore"] else []
  excludeRules := rulesAt dir [".git", "info", "exclude"]

/-- A leading `./`, which says nothing. -/
def here : List Char := ['.', '/']

/-- A path as the rules of a directory see it. -/
def relativeTo (base path : List Char) : List Char :=
  let path := Ignore.afterOrAll here path
  let base := Ignore.afterOrAll here base
  if base != ['.'] && path.contains '/' then
    match Ignore.after? base path with
    | some rest => Ignore.afterOrAll ['/'] rest
    | none => path
  else path

/-- The verdict of rules that stand in a directory. -/
def verdictFrom (base : List Char) (rules : List Rule) (path : List Char) (isDir : Bool) : Option Verdict :=
  Ignore.verdictOf rules (String.ofList (relativeTo base path)).toUTF8.data.toList isDir

/-- The directories that a walk has come through, the last one first, those above its root, and the user's own rules
with the directory that these are about. -/
structure Scope where
  root : List Char
  /-- The path of the root from the top of the disk. -/
  place : List Char
  layers : List Layer
  outer : List Layer
  /-- The path of the current directory from the top of the disk. -/
  current : List Char
  own : List Rule
deriving Inhabited

namespace Scope

/-- A path from the top of the disk. -/
def fullPath (s : Scope) (path : List Char) : List Char :=
  let rest := if s.root = ['.'] then path
    else Ignore.afterOrAll ['/'] (Ignore.afterOrAll (Ignore.afterOrAll here s.root) path)
  (if s.place = ['/'] then [] else s.place) ++ '/' :: rest

/-- The verdict of the nearest of some directories whose rules of one kind match. -/
def nearest (rules : Layer → List Rule) (layers : List Layer) (path : List Char) (isDir : Bool) :
    Option Verdict :=
  layers.findSome? fun l => verdictFrom l.base (rules l) path isDir

/-- The verdict of the rules of one kind. -/
def verdictBy (s : Scope) (rules : Layer → List Rule) (path : List Char) (isDir : Bool) :
    Option Verdict :=
  nearest rules s.layers path isDir <|> nearest rules s.outer (s.fullPath path) isDir

/-- The verdict of all rules about an entry. -/
def verdict (s : Scope) (path : String) (isDir : Bool) : Option Verdict :=
  let path := Ignore.afterOrAll here path.toList
  s.verdictBy (·.ignoreRules) path isDir <|> s.verdictBy (·.gitRules) path isDir <|>
    s.verdictBy (·.excludeRules) path isDir <|> verdictFrom s.current s.own path isDir

/-- Whether an entry is left out. What rules keep is walked even if it is hidden. -/
def leavesOut (o : WalkOptions) (s : Scope) (path name : String) (isDir : Bool) : Bool :=
  match s.verdict path isDir with
  | some .ignore => true
  | some .keep => false
  | none => !o.hidden && name.startsWith "."

/-- The scope within a directory. -/
def enter (o : WalkOptions) (s : Scope) (path : String) (dir : Entry) : Scope :=
  { s with layers := Layer.ofDir o path dir :: s.layers }

end Scope

/-- Whether a file is a source that no pattern matches. -/
def isSource (patterns : List Glob) (path name : String) : Bool :=
  extension? name == some "java" && !patterns.any (·.matchesPath path)

/-- Whether one name stands before another, or they are the same. -/
def nameLE {α : Type} (a b : String × α) : Bool := !(b.1 < a.1)

mutual

/-- The sources of an entry that is walked. -/
def sourcesOf (o : WalkOptions) (patterns : List Glob) (s : Scope) (path name : String) :
    Entry → List String
  | .file _ => if isSource patterns path name then [path] else []
  | .dir es =>
    let found := sourcesIn o patterns (s.enter o path (.dir es)) path es
    (found.mergeSort nameLE).flatMap (·.2)

/-- The sources of each entry of a directory that is walked, by name. -/
def sourcesIn (o : WalkOptions) (patterns : List Glob) (s : Scope) (path : String) :
    List (String × Entry) → List (String × List String)
  | [] => []
  | (name, e) :: es =>
    let inner := joinPath path name
    (name, if s.leavesOut o inner name e.isDir then [] else sourcesOf o patterns s inner name e) ::
      sourcesIn o patterns s path es

end

/-- The path of a place from the top of the disk. -/
def placePath (place : List String) : String := "/" ++ "/".intercalate place

/-- The rules in the directories above a place, the nearest first. -/
def layersAbove (d : Disk) (o : WalkOptions) (place : List String) : List Layer :=
  (List.range place.length).reverse.filterMap fun n =>
    (d.top.descend (place.take n)).map (Layer.ofDir o (placePath (place.take n)))

end Walk

/-- The paths of the sources below a directory, in order; nothing if the path leads to no directory. The path `-`
stands for the standard input, which holds no sources. -/
def Disk.walk? (d : Disk) (o : WalkOptions) (patterns : List Glob) (root : String) :
    Option (List String) :=
  match d.resolve? root with
  | none => none
  | some place =>
    match d.top.descend place with
    | some (.dir es) =>
      if root = "-" then some []
      else
        let s : Walk.Scope :=
          { root := root.toList, place := (Walk.placePath place).toList, layers := []
            outer := Walk.layersAbove d o place, current := (Walk.placePath d.current).toList
            own := d.ownRules }
        some (Walk.sourcesOf o patterns s root "" (.dir es))
    | _ => none

end TypeCensus
