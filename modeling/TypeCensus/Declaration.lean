/-!
# Declaration — the types that a source declares

A unit holds the types of one source in pre-order: each type is followed by its member types.  Classes and
interfaces are one kind of declaration with two flavors; enums are another.
-/

namespace TypeCensus

/-- Who may use a member. -/
inductive Visibility where
  | publicly
  | protectedly
  | package
  | privately
deriving BEq, DecidableEq, Inhabited, Repr

namespace Visibility

/-- Whether only the declaring type may use the member. -/
def isPrivate (v : Visibility) : Bool := v == .privately

/-- Whether the member is public or has no access keyword. -/
def isPublicOrPackage (v : Visibility) : Bool := v == .publicly || v == .package

end Visibility

/-- A parameter of a constructor. -/
structure Parameter where
  typeName : String
  name : String
  varargs : Bool
deriving BEq, DecidableEq, Inhabited, Repr

/-- A constructor. -/
structure Constructor where
  visibility : Visibility
  name : String
  parameters : List Parameter
deriving BEq, DecidableEq, Inhabited, Repr

/-- A field. -/
structure Field where
  visibility : Visibility
  isStatic : Bool
  name : String
deriving BEq, DecidableEq, Inhabited, Repr

/-- A method. -/
structure Method where
  visibility : Visibility
  isStatic : Bool
  name : String
deriving BEq, DecidableEq, Inhabited, Repr

/-- The type of a parameter as it stands in a signature. -/
def Parameter.inSignature (p : Parameter) : String :=
  if p.varargs then p.typeName ++ "..." else p.typeName

/-- The name of a constructor with the types of its parameters. -/
def Constructor.signature (c : Constructor) : String :=
  c.name ++ "(" ++ ", ".intercalate (c.parameters.map Parameter.inSignature) ++ ")"

/-- The name of a type and all that stands in its own body. -/
structure Members where
  name : String
  qualifiedName : String
  constructors : List Constructor := []
  fields : List Field := []
  methods : List Method := []
deriving BEq, DecidableEq, Inhabited, Repr

/-- A name within a package or an enclosing type; an empty qualifier counts as none. -/
def qualify (qualifier : Option String) (name : String) : String :=
  match qualifier with
  | some q => if q.isEmpty then name else q ++ "." ++ name
  | none => name

/-- A type with no members yet. -/
def Members.named (name : String) (qualifier : Option String) : Members where
  name
  qualifiedName := qualify qualifier name

/-- What a class-like declaration is. -/
inductive Flavor where
  | ordinary
  | interface
deriving BEq, DecidableEq, Inhabited, Repr

/-- A declaration of a type. -/
inductive TypeDecl where
  | classLike (flavor : Flavor) (members : Members)
  | enumeration (entries : List String) (members : Members)
deriving BEq, DecidableEq, Inhabited, Repr

namespace TypeDecl

/-- The members of a type. -/
def members : TypeDecl → Members
  | classLike _ ms => ms
  | enumeration _ ms => ms

/-- The qualified name of a type. -/
def qualifiedName (d : TypeDecl) : String := d.members.qualifiedName

/-- The members of a class or an interface. -/
def classMembers? : TypeDecl → Option Members
  | classLike _ ms => some ms
  | enumeration _ _ => none

end TypeDecl

/-- The constructors that others may call. -/
def Members.openConstructors (ms : Members) : List Constructor :=
  ms.constructors.filter fun c => !c.visibility.isPrivate

/-- The types of one source. -/
structure CompilationUnit where
  path : String
  package : Option String
  types : List TypeDecl
deriving BEq, DecidableEq, Inhabited, Repr

end TypeCensus
