/-!
# Disk — a tree of files and paths into it

A directory lists its entries by name.  A path is followed component by component from the top of the disk or from a
current directory: empty components and `.` stay, `..` goes up, and every component needs a directory to stand in.
-/

namespace TypeCensus

/-- A file or a directory. -/
inductive Entry where
  | file (content : List UInt8)
  | dir (entries : List (String × Entry))
deriving Inhabited, Repr

namespace Entry

/-- The entry of a directory with a name. -/
def child? : Entry → String → Option Entry
  | file _, _ => none
  | dir es, name => (es.find? (·.1 == name)).map (·.2)

/-- Whether the entry is a directory. -/
def isDir : Entry → Bool
  | file _ => false
  | dir _ => true

/-- The content of a file. -/
def content? : Entry → Option (List UInt8)
  | file bs => some bs
  | dir _ => none

/-- The entry some names further down. -/
def descend (e : Entry) : List String → Option Entry
  | [] => some e
  | name :: names => (e.child? name).bind (·.descend names)

/-- Puts an entry under a name, in the place of one that was there. -/
def put (name : String) (new : Entry) : List (String × Entry) → List (String × Entry)
  | [] => [(name, new)]
  | (n, e) :: es => if n = name then (n, new) :: es else (n, e) :: put name new es

/-- Puts an entry some names further down, with the directories on the way. -/
def insert (e : Entry) (names : List String) (new : Entry) : Entry :=
  match names with
  | [] => new
  | name :: names =>
    let es := match e with
      | file _ => []
      | dir es => es
    dir (put name (((dir es).child? name).getD (dir []) |>.insert names new) es)

end Entry

/-- Where a user keeps settings. -/
structure User where
  /-- The home directory. -/
  home? : Option String := none
  /-- The directory of settings, where it is not the usual one. -/
  config? : Option String := none
deriving BEq, DecidableEq, Inhabited, Repr

/-- A disk with the current directory on it, by names from the top, and its user. -/
structure Disk where
  top : Entry
  current : List String := []
  user : User := {}
deriving Inhabited, Repr

namespace Disk

/-- The components of a path. -/
def components (path : String) : List String := (path.toList.splitOn '/').map .ofList

/-- Follows components from a place on the disk, given by its names in reverse. -/
def follow (d : Disk) : List String → List String → Option (List String)
  | place, [] => some place
  | place, c :: cs =>
    match d.top.descend place.reverse with
    | some (.dir es) =>
      if c = "" || c = "." then follow d place cs
      else if c = ".." then follow d place.tail cs
      else if es.any (·.1 == c) then follow d (c :: place) cs
      else none
    | _ => none

/-- The place that a path leads to, by names from the top. -/
def resolve? (d : Disk) (path : String) : Option (List String) :=
  if path.isEmpty then none
  else
    let start := if path.startsWith "/" then [] else d.current.reverse
    (d.follow start (components path)).map List.reverse

/-- What a path leads to. -/
def find? (d : Disk) (path : String) : Option Entry := (d.resolve? path).bind d.top.descend

/-- Whether a path leads to a directory. -/
def isDir (d : Disk) (path : String) : Bool := (d.find? path).any Entry.isDir

/-- The content of the file that a path leads to. -/
def read? (d : Disk) (path : String) : Option (List UInt8) := (d.find? path).bind Entry.content?

/-- The text of the file that a path leads to, if it is one and its content is valid UTF-8. -/
def readText? (d : Disk) (path : String) : Option String :=
  (d.read? path).bind fun bs => String.fromUTF8? ⟨bs.toArray⟩

end Disk

/-- A path with a name added. -/
def joinPath (path name : String) : String :=
  if path.isEmpty || path.endsWith "/" then path ++ name else path ++ "/" ++ name

/-- A reversed path without slashes and `.` components after its last proper component. -/
def trimPath : List Char → List Char
  | '/' :: c :: cs => trimPath (c :: cs)
  | '.' :: '/' :: cs => trimPath ('/' :: cs)
  | cs => cs

/-- The path of the directory that holds what a path names, if the path names it. -/
def parent? (path : String) : Option String :=
  match trimPath path.toList.reverse with
  | [] | ['/'] => none
  | cs => some (.ofList (trimPath (cs.dropWhile (· != '/'))).reverse)

/-- A path and the paths of the directories above it, so many at most. -/
def selfAndAbove : Nat → String → List String
  | 0, _ => []
  | n + 1, path => path :: ((parent? path).map (selfAndAbove n)).getD []

/-- The part of a name after its last dot, unless nothing stands before that dot. -/
def extension? (name : String) : Option String :=
  match name.toList.splitOn '.' with
  | [] | [_] => none
  | [[], _] => none
  | parts => if name = ".." then none else parts.getLast?.map .ofList

end TypeCensus
