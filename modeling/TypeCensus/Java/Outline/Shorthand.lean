import TypeCensus.Grammar.Production

/-!
# Shorthand — how the rules of Java are written down

Four kinds of entries of the outline, and the rules that many phrases share.
-/

namespace TypeCensus.Java.Outline

open TypeCensus.Grammar

/-- A reference to a phrase or to a token class by its name. -/
def the (name : String) : Rule := .ref name

/-- A phrase with named nodes. -/
def shown (name : String) (rule : Rule) : Outline.Entry := { name, rule }

/-- A phrase whose nodes are not shown. -/
def silent (name : String) (rule : Rule) : Outline.Entry := { name, rule, form := .silent }

/-- A phrase that only lists its kinds. -/
def category (name : String) (kinds : Rule) : Outline.Entry :=
  { name, rule := kinds, form := .silent, category := true }

/-- A phrase that is replaced by its productions. -/
def inlined (name : String) (rule : Rule) : Outline.Entry :=
  { name, rule, form := .silent, inlined := true }

/-- One of several phrases or token classes. -/
def oneOf (names : List String) : Rule := .any (names.map the)

/-- One of several literals. -/
def oneWord (ws : List String) : Rule := .any (ws.map .lit)

/-- An identifier, or a word that is a keyword only in places. -/
def word : Rule := oneOf ["identifier", "_reserved_identifier"]

/-- An identifier in the place of a type. -/
def typeWord : Rule := (the "identifier").shownAs "type_identifier"

/-- Any number of annotations. -/
def annotations : Rule := .many (the "_annotation")

/-- The modifiers of a declaration, if there are any. -/
def modifiers : Rule := .opt (the "modifiers")

/-- How tightly an expression binds. -/
def binding : String → Int
  | "assignment" => 1
  | "declaration" => 2
  | "element" => 2
  | "ternary" => 3
  | "||" => 4
  | "&&" => 5
  | "|" => 6
  | "^" => 7
  | "&" => 8
  | "==" | "!=" => 9
  | "<" | ">" | "<=" | ">=" | "instanceof" | "generic" => 10
  | "<<" | ">>" | ">>>" => 11
  | "+" | "-" => 12
  | "*" | "/" | "%" => 13
  | "cast" => 14
  | "unary" => 15
  | "class" => 17
  | _ => 0

end TypeCensus.Java.Outline
