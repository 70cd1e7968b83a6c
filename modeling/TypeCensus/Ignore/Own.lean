import TypeCensus.Disk
import TypeCensus.Ignore.Rules

/-!
# Own — the rules that a user has for all directories

Besides the rules that stand in the directories themselves, a user may have a file of rules for all of them.

    setting   blanks excludesfile blanks = blanks ["] blanks path blanks ["] blanks

A setting begins with a line, and the path that it gives to this file ends with one; blanks may be line feeds.  Without
such a setting the file has its usual place among the user's settings.
-/

namespace TypeCensus

namespace Ignore

/-! ## The setting -/

/-- Whether a byte is a blank. -/
def isBlank (b : UInt8) : Bool := b == 32 || (9 ≤ b && b ≤ 13)

/-- The bytes without the blanks before them. -/
def skipBlanks (bs : List UInt8) : List UInt8 := bs.dropWhile isBlank

/-- Whether a line may end where some bytes follow, with nothing but blanks before its end. -/
def endsLine (bs : List UInt8) : Bool :=
  let blanks := bs.takeWhile isBlank
  blanks.contains 10 || blanks.length == bs.length

/-- Whether a path may end where some bytes follow. -/
def endsPath (bs : List UInt8) : Bool :=
  endsLine bs ||
    match skipBlanks bs with
    | 34 :: rest => endsLine rest
    | _ => false

/-- The shortest path that some bytes begin with. -/
def pathOf? : List UInt8 → Option (List UInt8)
  | [] => none
  | b :: bs => if isBlank b then none else if endsPath bs then some [b] else (pathOf? bs).map (b :: ·)

/-- The path that is given by some bytes. A quote before it is a part of it only if nothing else can be. -/
def givenPath? (bs : List UInt8) : Option (List UInt8) :=
  match skipBlanks bs with
  | 34 :: rest => pathOf? (skipBlanks rest) <|> pathOf? (34 :: rest)
  | rest => pathOf? rest

/-- The name of the setting. -/
def settingName : List UInt8 := "excludesfile".toUTF8.data.toList

/-- A byte with a small letter for a capital one. -/
def lower (b : UInt8) : UInt8 := if 65 ≤ b && b ≤ 90 then b + 32 else b

/-- The path that is given by the setting that some bytes begin with. -/
def setting? (bs : List UInt8) : Option (List UInt8) :=
  let bs := skipBlanks bs
  if (bs.take settingName.length).map lower = settingName then
    match skipBlanks (bs.drop settingName.length) with
    | 61 :: rest => givenPath? rest
    | _ => none
  else none

/-- What follows each line feed of some bytes. -/
def linesBelow : List UInt8 → List (List UInt8)
  | [] => []
  | b :: bs => if b = 10 then bs :: linesBelow bs else linesBelow bs

/-- The path of the file of rules that some settings give. -/
def excludesFile? (content : List UInt8) : Option String :=
  ((content :: linesBelow content).findSome? setting?).bind fun path => String.fromUTF8? ⟨path.toArray⟩

end Ignore

/-! ## The file -/

namespace User

/-- The directory of a user's settings. -/
def settingsDir? (u : User) : Option String :=
  u.config?.filter (!·.isEmpty) <|> u.home?.map (joinPath · ".config")

/-- The files of settings that may name the file of rules, in the order in which they count. -/
def settingsFiles (u : User) : List String :=
  (u.home?.map (joinPath · ".gitconfig")).toList ++ (u.settingsDir?.map (joinPath · "git/config")).toList

/-- A path with the home directory in the place of tildes. -/
def expand (u : User) (path : String) : String :=
  match u.home? with
  | some home => home.intercalate ((path.toList.splitOn '~').map .ofList)
  | none => path

end User

namespace Disk

/-- The path of the file of a user's own rules, which need not be there. -/
def ownFile? (d : Disk) : Option String :=
  (d.user.settingsFiles.findSome? fun path => (d.read? path).bind Ignore.excludesFile?).map d.user.expand <|>
    d.user.settingsDir?.map (joinPath · "git/ignore")

/-- The rules that the user of a disk has for all directories. -/
def ownRules (d : Disk) : List Ignore.Rule := ((d.ownFile?.bind d.read?).map Ignore.readRules).getD []

end Disk

end TypeCensus
