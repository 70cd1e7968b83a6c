import TypeCensus.Java.Modifiers

/-!
# Extraction — declarations from concrete syntax

Of a source, the classes, interfaces and enums right at the top are taken, and those right in the body of one that is
taken, to any depth.  The members of a type are those of its own body.  Types and packages are given as
their words with single spaces between them.
-/

namespace TypeCensus.Java

open TypeCensus.Syntax (Node)

/-- The kind of type that a node declares. -/
def hostOf? (n : Node) : Option Host :=
  match n.kind with
  | "class_declaration" => some .ordinary
  | "interface_declaration" => some .interface
  | "enum_declaration" => some .enum
  | _ => none

/-- The package of a source: the name in its first package declaration. -/
def package? (root : Node) : Option String :=
  (root.namedChildren.find? (·.kind == "package_declaration")).bind fun p =>
    (p.namedChildren.find? fun n => n.kind == "scoped_identifier" || n.kind == "identifier").map
      (·.plainText)

/-- A parameter; dimensions after its name belong to its type. -/
def ordinaryParameter? (n : Node) : Option Parameter :=
  (n.labelled? "type").map fun t =>
    { typeName := t.plainText ++ ((n.labelled? "dimensions").map (·.plainText)).getD ""
      name := n.name?.getD ""
      varargs := false }

/-- A parameter that takes any number of values. Its type is the first named child that is neither its modifiers
nor its declarator. -/
def spreadParameter? (n : Node) : Option Parameter :=
  let unlabelled := n.namedChildren.find? fun c =>
    c.kind != "modifiers" && c.kind != "variable_declarator"
  let declarator := n.namedChildren.find? (·.kind == "variable_declarator")
  ((n.labelled? "type") <|> unlabelled).map fun t =>
    { typeName := t.plainText
      name := ((declarator.bind (·.name?)) <|> n.name?).getD ""
      varargs := true }

/-- A parameter; receivers are none. -/
def parameter? (n : Node) : Option Parameter :=
  match n.kind with
  | "formal_parameter" => ordinaryParameter? n
  | "spread_parameter" => spreadParameter? n
  | _ => none

/-- A constructor. -/
def constructor? (h : Host) (n : Node) : Option Constructor :=
  n.name?.map fun name =>
    { visibility := (Modifiers.ofNode n).constructorVisibility h
      name
      parameters := ((n.labelled? "parameters").map fun ps => ps.namedChildren.filterMap parameter?).getD [] }

/-- The fields of one declaration, which share its modifiers. -/
def fields (h : Host) (n : Node) : List Field :=
  let m := Modifiers.ofNode n
  (n.labelled "declarator").filterMap fun d => d.name?.map fun name =>
    { visibility := m.memberVisibility h, isStatic := m.fieldIsStatic h, name }

/-- A method. -/
def method? (h : Host) (n : Node) : Option Method :=
  let m := Modifiers.ofNode n
  n.name?.map fun name => { visibility := m.memberVisibility h, isStatic := m.isStatic, name }

/-- The nodes in the body of a type that may declare members. -/
def memberNodes (h : Host) (n : Node) : List Node :=
  match n.labelled? "body" with
  | none => []
  | some body =>
    if h = .enum then
      (body.namedChildren.filter (·.kind == "enum_body_declarations")).flatMap (·.namedChildren)
    else body.namedChildren

/-- The names of the constants in the body of an enum. -/
def entries (n : Node) : List String :=
  match n.labelled? "body" with
  | none => []
  | some body => (body.namedChildren.filter (·.kind == "enum_constant")).filterMap (·.name?)

/-- The type that a node declares, under a name. -/
def declaration (h : Host) (name : String) (qualifier : Option String) (n : Node) : TypeDecl :=
  let ns := memberNodes h n
  let ms : Members := { Members.named name qualifier with
    constructors := (ns.filter (·.kind == "constructor_declaration")).filterMap (constructor? h)
    fields := (ns.filter fun m => m.kind == "field_declaration" || m.kind == "constant_declaration").flatMap
      (fields h)
    methods := (ns.filter (·.kind == "method_declaration")).filterMap (method? h) }
  match h with
  | .ordinary => .classLike .ordinary ms
  | .interface => .classLike .interface ms
  | .enum => .enumeration (entries n) ms

theorem sizeOf_lt_of_mem_memberNodes {h : Host} {n m : Node} (hm : m ∈ memberNodes h n) :
    sizeOf m < sizeOf n := by
  unfold memberNodes at hm
  split at hm
  · simp at hm
  · next body hb =>
    have hbody := Node.sizeOf_lt_of_mem_children (Node.mem_children_of_labelled? hb)
    split at hm
    · obtain ⟨d, hd, hmd⟩ := List.mem_flatMap.1 hm
      have hd' := Node.sizeOf_lt_of_mem_children
        (Node.mem_children_of_mem_namedChildren (List.mem_filter.1 hd).1)
      have hm' := Node.sizeOf_lt_of_mem_children (Node.mem_children_of_mem_namedChildren hmd)
      omega
    · have hm' := Node.sizeOf_lt_of_mem_children (Node.mem_children_of_mem_namedChildren hm)
      omega

/-- The type that a node declares, followed by its member types. -/
def typesOf (qualifier : Option String) (n : Node) : List TypeDecl :=
  match hostOf? n, n.name? with
  | some h, some name =>
    declaration h name qualifier n ::
      (memberNodes h n).attach.flatMap fun ⟨m, _⟩ => typesOf (some (qualify qualifier name)) m
  | _, _ => []
termination_by sizeOf n
decreasing_by exact sizeOf_lt_of_mem_memberNodes ‹_›

/-- All types of a source. -/
def types (root : Node) (package : Option String) : List TypeDecl :=
  root.namedChildren.flatMap (typesOf package)

end TypeCensus.Java
