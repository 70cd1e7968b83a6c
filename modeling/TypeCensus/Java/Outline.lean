import TypeCensus.Java.Lexicon
import TypeCensus.Java.Outline.Declarations
import TypeCensus.Java.Outline.Expressions
import TypeCensus.Java.Outline.Statements

/-!
# Outline — the grammar of Java

Comments may stand anywhere.  Where a text has several readings, the precedences of the phrases and their
weights choose one.
-/

namespace TypeCensus.Java

open TypeCensus.Grammar

/-- The grammar of Java as it is written down. -/
def outline : Grammar.Outline where
  lexicon := lexicon
  phrases := (Outline.texts ++ Outline.literals ++ Outline.operators ++ Outline.primaries ++
    Outline.switches ++ Outline.simpleStatements ++ Outline.tries ++ Outline.loops ++
    Outline.annotationUses ++ Outline.modules ++ Outline.classes ++ Outline.interfaces ++
    Outline.declarators ++ Outline.types ++ Outline.methods).toArray
  extras := ["line_comment", "block_comment"]

end TypeCensus.Java
