/-!
# Value — values of settings, and tables as they are filled

A table remembers how it came to be, because this decides who may still add to it: a header may complete a table that
was only named on the way to another one, dotted keys may add to a table of dotted keys, and a table in braces is
finished where it closes.
-/

namespace TypeCensus.Toml

/-- How a table came to be. -/
inductive Origin where
  /-- It has a header of its own. -/
  | header
  /-- It was named on the way to a header. -/
  | implied
  /-- It was named by dotted keys. -/
  | dotted
  /-- It stands in braces. -/
  | inline
deriving BEq, DecidableEq, Inhabited, Repr

/-- A value. Of numbers and dates the text is kept. -/
inductive Value where
  | string (s : String)
  | boolean (b : Bool)
  | number (text : String)
  | date (text : String)
  | array (items : List Value)
  | table (origin : Origin) (entries : List (String × Value))
  /-- The tables of a repeated header. -/
  | tables (items : List (List (String × Value)))
deriving Inhabited, Repr

/-- The entries of a table; no key occurs twice. -/
abbrev Table := List (String × Value)

namespace Table

/-- Puts a value under a key, in the place of one that was there. -/
def put (k : String) (v : Value) : Table → Table
  | [] => [(k, v)]
  | (l, w) :: t => if l = k then (l, v) :: t else (l, w) :: put k v t

/-- Changes the table that some keys lead to; tables on the way are made as needed. Dotted keys do not lead into a
table with a header, nothing leads into a table in braces, and the last table of a repeated header stands for all. -/
def within (isDotted : Bool) (change : Origin → Table → Option Table) :
    List String → Origin → Table → Option Table
  | [], o, t => change o t
  | k :: ks, _, t =>
    match t.lookup k with
    | none =>
      let o : Origin := if isDotted then .dotted else .implied
      (within isDotted change ks o []).map fun inner => put k (.table o inner) t
    | some (.table o inner) =>
      if o = .inline || (isDotted && o = .header) then none
      else (within isDotted change ks o inner).map fun inner => put k (.table o inner) t
    | some (.tables items) =>
      items.getLast?.bind fun item =>
        (within isDotted change ks .header item).map fun item =>
          put k (.tables (items.dropLast ++ [item])) t
    | some _ => none

/-- Adds a value under a new key of a table that some dotted keys lead to. -/
def add (ks : List String) (k : String) (v : Value) : Origin → Table → Option Table :=
  within true
    (fun o t =>
      if (!ks.isEmpty && o != .dotted) || (t.lookup k).isSome then none else some (put k v t))
    ks

/-- Adds a value to the table under a header. -/
def addUnder (path ks : List String) (k : String) (v : Value) (t : Table) : Option Table :=
  within false (add ks k v) path .header t

/-- Opens the table of a header. -/
def openTable (ks : List String) (k : String) (t : Table) : Option Table :=
  within false
    (fun _ t =>
      match t.lookup k with
      | none => some (put k (.table .header []) t)
      | some (.table .implied inner) => some (put k (.table .header inner) t)
      | some _ => none)
    ks .header t

/-- Opens one more table of a repeated header. -/
def openItem (ks : List String) (k : String) (t : Table) : Option Table :=
  within false
    (fun _ t =>
      match t.lookup k with
      | none => some (put k (.tables [[]]) t)
      | some (.tables items) => some (put k (.tables (items ++ [[]])) t)
      | some _ => none)
    ks .header t

end Table

end TypeCensus.Toml
