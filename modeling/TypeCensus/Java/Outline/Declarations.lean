import TypeCensus.Java.Outline.Shorthand

/-!
# Declarations — packages, modules, types, members and parameters
-/

namespace TypeCensus.Java.Outline

open TypeCensus.Grammar Rule

/-- Modules, packages and imports. -/
def modules : List Outline.Entry := [
  category "declaration" ((oneOf ["module_declaration", "package_declaration",
    "import_declaration", "class_declaration", "record_declaration", "interface_declaration",
    "annotation_type_declaration", "enum_declaration"]).ranked (binding "declaration")),
  shown "module_declaration" (all [
    annotations, opt "open", "module", (the "_name").labelled "name",
    (the "module_body").labelled "body"]),
  shown "module_body" (all ["\x7b", many (the "module_directive"), "\x7d"]),
  category "module_directive" (oneOf ["requires_module_directive", "exports_module_directive",
    "opens_module_directive", "uses_module_directive", "provides_module_directive"]),
  shown "requires_module_directive" (all [
    "requires", many ((the "requires_modifier").labelled "modifiers"),
    (the "_name").labelled "module", ";"]),
  shown "requires_modifier" (oneWord ["transitive", "static"]),
  shown "exports_module_directive" (all [
    "exports", (the "_name").labelled "package",
    opt (seq "to" (commas1 ((the "_name").labelled "modules"))), ";"]),
  shown "opens_module_directive" (all [
    "opens", (the "_name").labelled "package",
    opt (seq "to" (commas1 ((the "_name").labelled "modules"))), ";"]),
  shown "uses_module_directive" (all ["uses", (the "_name").labelled "type", ";"]),
  shown "provides_module_directive" (all [
    "provides", (the "_name").labelled "provided", "with", the "_name",
    many (seq "," ((the "_name").labelled "provider")), ";"]),
  shown "package_declaration" (all [annotations, "package", the "_name", ";"]),
  shown "import_declaration" (all [
    "import", opt "static", the "_name", opt (seq "." (the "asterisk")), ";"]),
  shown "asterisk" "*"]

/-- The words that may modify a declaration. -/
def modifierWords : List String :=
  ["public", "protected", "private", "abstract", "static", "final", "strictfp", "default",
    "synchronized", "native", "transient", "volatile", "sealed", "non-sealed"]

/-- Enums and classes. -/
def classes : List Outline.Entry := [
  shown "enum_declaration" (all [
    modifiers, "enum", (the "identifier").labelled "name",
    (opt (the "super_interfaces")).labelled "interfaces", (the "enum_body").labelled "body"]),
  shown "enum_body" (all ["\x7b",
    commas (the "enum_constant"), opt ",", opt (the "enum_body_declarations"), "\x7d"]),
  shown "enum_body_declarations" (seq ";" (many (the "_class_body_declaration"))),
  shown "enum_constant" (all [
    modifiers, (the "identifier").labelled "name",
    (opt (the "argument_list")).labelled "arguments", (opt (the "class_body")).labelled "body"]),
  shown "class_declaration" (all [
    modifiers, "class", (the "identifier").labelled "name",
    opt ((the "type_parameters").labelled "type_parameters"),
    opt ((the "superclass").labelled "superclass"),
    opt ((the "super_interfaces").labelled "interfaces"), opt ((the "permits").labelled "permits"),
    (the "class_body").labelled "body"]),
  shown "modifiers" (many1 (any (the "_annotation" :: modifierWords.map .lit))),
  shown "type_parameters" (all ["<", commas1 (the "type_parameter"), ">"]),
  shown "type_parameter" (all [annotations, typeWord, opt (the "type_bound")]),
  shown "type_bound" (all ["extends", the "_type", many (seq "&" (the "_type"))]),
  shown "superclass" (seq "extends" (the "_type")),
  shown "super_interfaces" (seq "implements" (the "type_list")),
  shown "type_list" (seq (the "_type") (many (seq "," (the "_type")))),
  shown "permits" (seq "permits" (the "type_list")),
  shown "class_body" (all ["\x7b", many (the "_class_body_declaration"), "\x7d"]),
  inlined "_class_body_declaration" (any [
    the "field_declaration", the "record_declaration", the "method_declaration",
    the "compact_constructor_declaration", the "class_declaration", the "interface_declaration",
    the "annotation_type_declaration", the "enum_declaration", the "block",
    the "static_initializer", the "constructor_declaration", ";"]),
  shown "static_initializer" (seq "static" (the "block")),
  shown "constructor_declaration" (all [
    modifiers, the "_constructor_declarator", opt (the "throws"),
    (the "constructor_body").labelled "body"]),
  silent "_constructor_declarator" (all [
    (opt (the "type_parameters")).labelled "type_parameters", (the "identifier").labelled "name",
    (the "formal_parameters").labelled "parameters"]),
  shown "constructor_body" (all ["\x7b",
    opt (the "explicit_constructor_invocation"), many (the "statement"), "\x7d"]),
  shown "explicit_constructor_invocation" (all [
    any [
      seq ((opt (the "type_arguments")).labelled "type_arguments")
        ((oneOf ["this", "super"]).labelled "constructor"),
      all [(the "primary_expression").labelled "object", ".",
        (opt (the "type_arguments")).labelled "type_arguments",
        (the "super").labelled "constructor"]],
    (the "argument_list").labelled "arguments", ";"]),
  inlined "_name" (oneOf ["identifier", "_reserved_identifier", "scoped_identifier"]),
  shown "scoped_identifier" (all [
    (the "_name").labelled "scope", ".", (the "identifier").labelled "name"]),
  shown "field_declaration" (all [
    modifiers, (the "_unannotated_type").labelled "type", the "_variable_declarator_list", ";"]),
  shown "record_declaration" (all [
    modifiers, "record", (the "identifier").labelled "name",
    opt ((the "type_parameters").labelled "type_parameters"),
    (the "formal_parameters").labelled "parameters",
    opt ((the "super_interfaces").labelled "interfaces"), (the "class_body").labelled "body"])]

/-- Annotation types and interfaces. -/
def interfaces : List Outline.Entry := [
  shown "annotation_type_declaration" (all [
    modifiers, "@interface", (the "identifier").labelled "name",
    (the "annotation_type_body").labelled "body"]),
  shown "annotation_type_body" (all ["\x7b", many (any [
    the "annotation_type_element_declaration", the "constant_declaration",
    the "class_declaration", the "interface_declaration", the "enum_declaration",
    the "annotation_type_declaration", ";"]), "\x7d"]),
  shown "annotation_type_element_declaration" (all [
    modifiers, (the "_unannotated_type").labelled "type", word.labelled "name", "(", ")",
    (opt (the "dimensions")).labelled "dimensions", opt (the "_default_value"), ";"]),
  silent "_default_value" (seq "default" ((the "_element_value").labelled "value")),
  shown "interface_declaration" (all [
    modifiers, "interface", (the "identifier").labelled "name",
    (opt (the "type_parameters")).labelled "type_parameters", opt (the "extends_interfaces"),
    opt ((the "permits").labelled "permits"), (the "interface_body").labelled "body"]),
  shown "extends_interfaces" (seq "extends" (the "type_list")),
  shown "interface_body" (all ["\x7b", many (any [
    the "constant_declaration", the "enum_declaration", the "method_declaration",
    the "class_declaration", the "interface_declaration", the "record_declaration",
    the "annotation_type_declaration", ";"]), "\x7d"]),
  shown "constant_declaration" (all [
    modifiers, (the "_unannotated_type").labelled "type", the "_variable_declarator_list", ";"])]

/-- Variables and what they begin with. -/
def declarators : List Outline.Entry := [
  silent "_variable_declarator_list" (commas1 ((the "variable_declarator").labelled "declarator")),
  shown "variable_declarator" (seq (the "_variable_declarator_id")
    (opt (seq "=" ((the "_variable_initializer").labelled "value")))),
  silent "_variable_declarator_id" (seq
    ((oneOf ["identifier", "_reserved_identifier", "underscore_pattern"]).labelled "name")
    ((opt (the "dimensions")).labelled "dimensions")),
  inlined "_variable_initializer" (oneOf ["expression", "array_initializer"]),
  shown "array_initializer" (all ["\x7b",
    commas (the "_variable_initializer"), opt ",", "\x7d"])]

/-- Types. -/
def types : List Outline.Entry := [
  category "_type" (oneOf ["_unannotated_type", "annotated_type"]),
  category "_unannotated_type" (oneOf ["_simple_type", "array_type"]),
  { inlined "_simple_type" (any [
      the "void_type", the "integral_type", the "floating_point_type", the "boolean_type", typeWord,
      the "scoped_type_identifier", the "generic_type"]) with category := true },
  shown "annotated_type" (seq (many1 (the "_annotation")) (the "_unannotated_type")),
  shown "scoped_type_identifier" (all [
    any [typeWord, the "scoped_type_identifier", the "generic_type"], ".", annotations, typeWord]),
  shown "generic_type" ((seq (any [typeWord, the "scoped_type_identifier"])
    (the "type_arguments")).weighing (binding "generic")),
  shown "array_type" (seq
    ((the "_unannotated_type").labelled "element") ((the "dimensions").labelled "dimensions")),
  shown "integral_type" (oneWord ["byte", "short", "int", "long", "char"]),
  shown "floating_point_type" (oneWord ["float", "double"])]

/-- Methods and parameters. -/
def methods : List Outline.Entry := [
  shown "method_declaration" (all [
    modifiers, the "_method_header", (any [the "block", ";"]).labelled "body"]),
  silent "_method_header" (all [
    opt (seq ((the "type_parameters").labelled "type_parameters") annotations),
    (the "_unannotated_type").labelled "type", the "_method_declarator", opt (the "throws")]),
  silent "_method_declarator" (all [
    word.labelled "name", (the "formal_parameters").labelled "parameters",
    (opt (the "dimensions")).labelled "dimensions"]),
  shown "formal_parameters" (all ["(",
    any [the "receiver_parameter",
      seq (opt (seq (the "receiver_parameter") ","))
        (commas (oneOf ["formal_parameter", "spread_parameter"]))], ")"]),
  shown "formal_parameter" (all [
    modifiers, (the "_unannotated_type").labelled "type", the "_variable_declarator_id"]),
  shown "receiver_parameter" (all [
    annotations, the "_unannotated_type", many (seq (the "identifier") "."), the "this"]),
  shown "spread_parameter" (all [
    modifiers, the "_unannotated_type", "...", annotations, the "variable_declarator"]),
  shown "throws" (seq "throws" (commas1 (the "_type"))),
  shown "local_variable_declaration" (all [
    modifiers, (the "_unannotated_type").labelled "type", the "_variable_declarator_list", ";"]),
  shown "compact_constructor_declaration" (all [
    modifiers, (the "identifier").labelled "name", (the "block").labelled "body"]),
  silent "_reserved_identifier" (any [
    ((oneWord ["open", "module", "record", "with", "sealed"]).shownAs "identifier").ranked (-3),
    (lit "yield").shownAs "identifier"])]

end TypeCensus.Java.Outline
