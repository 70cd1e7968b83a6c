import TypeCensus.Report.Line

/-!
# Query — the questions that can be asked about units

A query goes through all types in order.  The first two count and keep what reaches a threshold; the third
classifies, and the threshold has no say in it.
-/

namespace TypeCensus.Report

/-- A threshold for counts. -/
abbrev Threshold := UInt64

/-- All types of some units, in order. -/
def allTypes (us : List CompilationUnit) : List TypeDecl := us.flatMap (·.types)

/-- The members of all classes and interfaces of some units, in order. -/
def allClasses (us : List CompilationUnit) : List Members :=
  (allTypes us).filterMap TypeDecl.classMembers?

/-- Whether a count reaches a threshold. -/
def reaches (t : Threshold) (n : Nat) : Bool := t.toNat ≤ n

/-- Classes with at least so many constructors that are not private. -/
def manyConstructors (us : List CompilationUnit) (t : Threshold) : List Line :=
  (allClasses us).filterMap fun ms =>
    let n := ms.openConstructors.length
    if reaches t n then some ⟨ms.qualifiedName, .count n⟩ else none

/-- Constructors that are not private and have at least so many parameters. -/
def manyParameters (us : List CompilationUnit) (t : Threshold) : List Line :=
  (allClasses us).flatMap fun ms =>
    ms.openConstructors.filterMap fun c =>
      let n := c.parameters.length
      if reaches t n then some ⟨ms.qualifiedName ++ "." ++ c.signature, .count n⟩ else none

/-- The way in which a class is a singleton. Of its static fields `INSTANCE` the first one counts, of its static
methods `getInstance` any one does. -/
def classifyClass (ms : Members) : Option Singleton :=
  let field := ms.fields.find? fun f => f.isStatic && f.name == "INSTANCE"
  let factories := ms.methods.filter fun m => m.isStatic && m.name == "getInstance"
  if field.any (·.visibility.isPublicOrPackage) then some .publicField
  else if factories.any (·.visibility.isPublicOrPackage) then some .staticFactory
  else none

/-- The way in which a type is a singleton. -/
def classify : TypeDecl → Option Singleton
  | .classLike _ ms => classifyClass ms
  | .enumeration entries _ => if entries = ["INSTANCE"] then some .singletonEnum else none

/-- The types that are singletons. -/
def singletons (us : List CompilationUnit) : List Line :=
  (allTypes us).filterMap fun d => (classify d).map fun s => ⟨d.qualifiedName, .label s⟩

/-- A question about units. -/
inductive Query where
  | manyConstructors
  | manyParameters
  | singletons
deriving BEq, DecidableEq, Inhabited, Repr

namespace Query

/-- The name of a query on the command line. -/
def name : Query → String
  | manyConstructors => "mc"
  | manyParameters => "mcp"
  | singletons => "st"

/-- All queries. -/
def all : List Query := [manyConstructors, manyParameters, singletons]

/-- The query with a name. -/
def ofName? (s : String) : Option Query := all.find? (·.name == s)

/-- The report on some units. -/
def run (q : Query) (us : List CompilationUnit) (t : Threshold) : List Line :=
  match q with
  | manyConstructors => Report.manyConstructors us t
  | manyParameters => Report.manyParameters us t
  | singletons => Report.singletons us

end Query

end TypeCensus.Report
