import TypeCensus.Java.Outline.Shorthand

/-!
# Statements
-/

namespace TypeCensus.Java.Outline

open TypeCensus.Grammar Rule

/-- Simple statements and blocks. -/
def simpleStatements : List Outline.Entry := [
  category "statement" (any [
    the "declaration", the "expression_statement", the "labeled_statement", the "if_statement",
    the "while_statement", the "for_statement", the "enhanced_for_statement", the "block", ";",
    the "assert_statement", the "do_statement", the "break_statement", the "continue_statement",
    the "return_statement", the "yield_statement", the "switch_expression",
    the "synchronized_statement", the "local_variable_declaration", the "throw_statement",
    the "try_statement", the "try_with_resources_statement"]),
  shown "block" (all ["\x7b", many (the "statement"), "\x7d"]),
  shown "expression_statement" (seq (the "expression") ";"),
  shown "labeled_statement" (all [the "identifier", ":", the "statement"]),
  shown "assert_statement" (any [
    all ["assert", the "expression", ";"],
    all ["assert", the "expression", ":", the "expression", ";"]]),
  shown "do_statement" (all [
    "do", (the "statement").labelled "body", "while",
    (the "parenthesized_expression").labelled "condition", ";"]),
  shown "break_statement" (all ["break", opt (the "identifier"), ";"]),
  shown "continue_statement" (all ["continue", opt (the "identifier"), ";"]),
  shown "return_statement" (all ["return", opt (the "expression"), ";"]),
  shown "yield_statement" (all ["yield", the "expression", ";"]),
  shown "synchronized_statement" (all [
    "synchronized", the "parenthesized_expression", (the "block").labelled "body"]),
  shown "throw_statement" (all ["throw", the "expression", ";"])]

/-- Statements that catch exceptions. -/
def tries : List Outline.Entry := [
  shown "try_statement" (all [
    "try", (the "block").labelled "body",
    any [many1 (the "catch_clause"), seq (many (the "catch_clause")) (the "finally_clause")]]),
  shown "catch_clause" (all [
    "catch", "(", the "catch_formal_parameter", ")", (the "block").labelled "body"]),
  shown "catch_formal_parameter" (all [
    modifiers, the "catch_type", the "_variable_declarator_id"]),
  shown "catch_type" (sepBy1 (the "_unannotated_type") "|"),
  shown "finally_clause" (seq "finally" (the "block")),
  shown "try_with_resources_statement" (all [
    "try", (the "resource_specification").labelled "resources", (the "block").labelled "body",
    many (the "catch_clause"), opt (the "finally_clause")]),
  shown "resource_specification" (all ["(", sepBy1 (the "resource") ";", opt ";", ")"]),
  shown "resource" (any [
    all [modifiers, (the "_unannotated_type").labelled "type", the "_variable_declarator_id", "=",
      (the "expression").labelled "value"],
    the "identifier", the "field_access"])]

/-- Branches and loops. -/
def loops : List Outline.Entry := [
  shown "if_statement" ((all [
    "if", (the "parenthesized_expression").labelled "condition",
    (the "statement").labelled "consequence",
    opt (seq "else" ((the "statement").labelled "alternative"))]).rightAt 0),
  shown "while_statement" (all [
    "while", (the "parenthesized_expression").labelled "condition",
    (the "statement").labelled "body"]),
  shown "for_statement" (all [
    "for", "(",
    any [(the "local_variable_declaration").labelled "init",
      seq (commas ((the "expression").labelled "init")) ";"],
    (opt (the "expression")).labelled "condition", ";",
    commas ((the "expression").labelled "update"), ")", (the "statement").labelled "body"]),
  shown "enhanced_for_statement" (all [
    "for", "(", modifiers, (the "_unannotated_type").labelled "type",
    the "_variable_declarator_id", ":", (the "expression").labelled "value", ")",
    (the "statement").labelled "body"])]

/-- Annotations and their arguments. -/
def annotationUses : List Outline.Entry := [
  silent "_annotation" (oneOf ["marker_annotation", "annotation"]),
  shown "marker_annotation" (seq "@" ((the "_name").labelled "name")),
  shown "annotation" (all [
    "@", (the "_name").labelled "name", (the "annotation_argument_list").labelled "arguments"]),
  shown "annotation_argument_list" (all ["(",
    any [the "_element_value", commas (the "element_value_pair")], ")"]),
  shown "element_value_pair" (all [
    word.labelled "key", "=", (the "_element_value").labelled "value"]),
  silent "_element_value" ((oneOf ["expression", "element_value_array_initializer",
    "_annotation"]).ranked (binding "element")),
  shown "element_value_array_initializer" (all ["\x7b",
    commas (the "_element_value"), opt ",", "\x7d"])]

end TypeCensus.Java.Outline
