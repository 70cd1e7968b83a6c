import TypeCensus.Java.Outline.Shorthand

/-!
# Expressions — literals, operators, calls and lambdas
-/

namespace TypeCensus.Java.Outline

open TypeCensus.Grammar Rule

/-- The whole text. -/
def texts : List Outline.Entry := [
  shown "program" (many (the "_toplevel_statement")),
  silent "_toplevel_statement" (oneOf ["statement", "method_declaration"])]

/-- Literals; a string may hold expressions. -/
def literals : List Outline.Entry := [
  category "_literal" (oneOf ["decimal_integer_literal", "hex_integer_literal",
    "octal_integer_literal", "binary_integer_literal", "decimal_floating_point_literal",
    "hex_floating_point_literal", "true", "false", "character_literal", "string_literal",
    "null_literal"]),
  shown "string_literal" (oneOf ["_string_literal", "_multiline_string_literal"]),
  silent "_string_literal" (all ["\"",
    many (oneOf ["string_fragment", "escape_sequence", "string_interpolation"]), "\""]),
  silent "_multiline_string_literal" (all ["\"\"\"",
    many (oneOf ["multiline_string_fragment", "_escape_sequence", "string_interpolation"]),
    "\"\"\""]),
  shown "multiline_string_fragment" (oneOf ["multiline_run", "multiline_quote"]),
  shown "string_interpolation" (all ["\\\x7b", the "expression", "\x7d"]),
  silent "_escape_sequence" (any [
    (the "escape_run").ranked 2, (the "escape_sequence").ranked 1])]

/-- Operators that take two expressions and group to the left. -/
def binaryOperators : List String :=
  [">", "<", ">=", "<=", "==", "!=", "&&", "||", "+", "-", "*", "/", "&", "|", "^", "%", "<<", ">>",
    ">>>"]

/-- Operators that assign. -/
def assignmentOperators : List String :=
  ["=", "+=", "-=", "*=", "/=", "&=", "|=", "^=", "%=", "<<=", ">>=", ">>>="]

/-- Expressions that operators form. -/
def operators : List Outline.Entry := [
  category "expression" (oneOf ["assignment_expression", "binary_expression",
    "instanceof_expression", "lambda_expression", "ternary_expression", "update_expression",
    "primary_expression", "unary_expression", "cast_expression", "switch_expression"]),
  shown "cast_expression" ((any [
    all ["(", (the "_type").labelled "type", ")", (the "expression").labelled "value"],
    all ["(", sepBy1 ((the "_type").labelled "type") "&", ")",
      (oneOf ["primary_expression", "lambda_expression"]).labelled "value"]]).ranked
    (binding "cast")),
  shown "assignment_expression" ((all [
    (oneOf ["identifier", "_reserved_identifier", "field_access", "array_access"]).labelled "left",
    (oneWord assignmentOperators).labelled "operator",
    (the "expression").labelled "right"]).rightAt (binding "assignment")),
  shown "binary_expression" (any (binaryOperators.map fun w => (all [
    (the "expression").labelled "left", (lit w).labelled "operator",
    (the "expression").labelled "right"]).leftAt (binding w))),
  shown "instanceof_expression" ((all [
    (the "expression").labelled "left", "instanceof", opt "final",
    any [seq ((the "_type").labelled "right") (opt (word.labelled "name")),
      (the "record_pattern").labelled "pattern"]]).ranked (binding "instanceof")),
  shown "lambda_expression" (all [
    (oneOf ["identifier", "_reserved_identifier", "formal_parameters",
      "inferred_parameters"]).labelled "parameters",
    "->", (oneOf ["expression", "block"]).labelled "body"]),
  shown "inferred_parameters" (all ["(", commas1 word, ")"]),
  shown "ternary_expression" ((all [
    (the "expression").labelled "condition", "?", (the "expression").labelled "consequence",
    ":", (the "expression").labelled "alternative"]).rightAt (binding "ternary")),
  shown "unary_expression" (any (["+", "-", "!", "~"].map fun w => (all [
    (lit w).labelled "operator", (the "expression").labelled "operand"]).leftAt
    (binding "unary"))),
  shown "update_expression" ((any [
    seq (the "expression") "++", seq (the "expression") "--",
    seq "++" (the "expression"), seq "--" (the "expression")]).leftAt (binding "unary"))]

/-- Expressions that no operator can split. -/
def primaries : List Outline.Entry := [
  category "primary_expression" (oneOf ["_literal", "class_literal", "this", "identifier",
    "_reserved_identifier", "parenthesized_expression", "object_creation_expression",
    "field_access", "array_access", "method_invocation", "method_reference",
    "array_creation_expression", "template_expression"]),
  shown "array_creation_expression" ((all [
    "new", annotations, (the "_simple_type").labelled "type",
    any [
      seq ((many1 (the "dimensions_expr")).labelled "dimensions")
        ((opt (the "dimensions")).labelled "dimensions"),
      seq ((the "dimensions").labelled "dimensions")
        ((the "array_initializer").labelled "value")]]).rightAt 0),
  shown "dimensions_expr" (all [annotations, "[", the "expression", "]"]),
  shown "parenthesized_expression" (all ["(", the "expression", ")"]),
  shown "class_literal"
    ((all [the "_unannotated_type", ".", "class"]).weighing (binding "class")),
  shown "object_creation_expression" (any [
    the "_unqualified_object_creation_expression",
    all [the "primary_expression", ".", the "_unqualified_object_creation_expression"]]),
  silent "_unqualified_object_creation_expression" ((all [
    "new",
    any [all [annotations, (the "type_arguments").labelled "type_arguments", annotations],
      annotations],
    (the "_simple_type").labelled "type", (the "argument_list").labelled "arguments",
    opt (the "class_body")]).rightAt 0),
  shown "field_access" (all [
    (oneOf ["primary_expression", "super"]).labelled "object", opt (seq "." (the "super")), ".",
    (oneOf ["identifier", "_reserved_identifier", "this"]).labelled "field"]),
  shown "template_expression" (all [
    (the "primary_expression").labelled "template_processor", ".",
    (the "string_literal").labelled "template_argument"]),
  shown "array_access" (all [
    (the "primary_expression").labelled "array", "[", (the "expression").labelled "index", "]"]),
  shown "method_invocation" (seq
    (any [word.labelled "name", all [
      (oneOf ["primary_expression", "super"]).labelled "object", ".", opt (seq (the "super") "."),
      (opt (the "type_arguments")).labelled "type_arguments", word.labelled "name"]])
    ((the "argument_list").labelled "arguments")),
  shown "argument_list" (all ["(", commas (the "expression"), ")"]),
  shown "method_reference" (all [
    oneOf ["_type", "primary_expression", "super"], "::", opt (the "type_arguments"),
    any ["new", the "identifier"]]),
  shown "type_arguments" (all ["<", commas (oneOf ["_type", "wildcard"]), ">"]),
  shown "wildcard" (all [annotations, "?", opt (the "_wildcard_bounds")]),
  silent "_wildcard_bounds" (any [
    seq "extends" (the "_type"), seq (the "super") (the "_type")]),
  shown "dimensions" ((many1 (all [annotations, "[", "]"])).rightAt 0)]

/-- Switches and the patterns of their cases. -/
def switches : List Outline.Entry := [
  shown "switch_expression" (all [
    "switch", (the "parenthesized_expression").labelled "condition",
    (the "switch_block").labelled "body"]),
  shown "switch_block" (all ["\x7b",
    any [many (the "switch_block_statement_group"), many (the "switch_rule")], "\x7d"]),
  shown "switch_block_statement_group" ((seq
    (many1 (seq (the "switch_label") ":")) (many (the "statement"))).leftAt 0),
  shown "switch_rule" (all [the "switch_label", "->",
    oneOf ["expression_statement", "throw_statement", "block"]]),
  shown "switch_label" (any [
    all ["case", any [the "pattern", commas1 (the "expression")], opt (the "guard")], "default"]),
  shown "pattern" (oneOf ["type_pattern", "record_pattern"]),
  shown "type_pattern" (seq (the "_unannotated_type") word),
  shown "record_pattern" (seq (oneOf ["identifier", "_reserved_identifier", "generic_type"])
    (the "record_pattern_body")),
  shown "record_pattern_body" (all ["(",
    commas (oneOf ["record_pattern_component", "record_pattern"]), ")"]),
  shown "record_pattern_component" (any [
    the "underscore_pattern", seq (the "_unannotated_type") word]),
  shown "guard" (seq "when" (the "expression"))]

end TypeCensus.Java.Outline
