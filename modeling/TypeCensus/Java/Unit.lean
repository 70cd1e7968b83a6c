import TypeCensus.Java.Extraction
import TypeCensus.Java.Outline
import TypeCensus.Syntax.Fault
import TypeCensus.Syntax.OfTree

/-!
# Unit — a Java source as a unit of declarations

A source is taken as a whole or not at all: if any of it could not be read, its fault is the answer.
-/

namespace TypeCensus.Java

open TypeCensus.Syntax (Fault Node)

/-- The tables of the grammar of Java. -/
def table : Grammar.Table := .ofOutline outline

/-- The concrete syntax of a source. -/
def parse (text : String) : Node := .ofText table text

/-- The unit of a concrete syntax. -/
def unitOf (path : String) (root : Node) : CompilationUnit where
  path
  package := package? root
  types := types root (package? root)

/-- The unit of a source that was read as a concrete syntax, or what is wrong with it. -/
def unitOrFault (path text : String) (root : Node) : Except Fault CompilationUnit :=
  if root.info.faulty then .error (root.fault text) else .ok (unitOf path root)

/-- The unit of a source, or what is wrong with it. -/
def unit (path text : String) : Except Fault CompilationUnit := unitOrFault path text (parse text)

end TypeCensus.Java
