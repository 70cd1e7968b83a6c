import TypeCensus.Grammar.Lexicon
import TypeCensus.Text.WordTable

/-!
# Lexicon — the token classes of Java

Numbers, characters, the parts of strings, signs, keywords, identifiers and comments.  A keyword is a
token class of its own that the identifiers also match; where the grammar cannot use the keyword, the same text is an
identifier.  Only ASCII blanks separate tokens.
-/

namespace TypeCensus.Java

open TypeCensus.Grammar

namespace Lexicon

open Pattern

/-- One of the characters of a text. -/
def among (s : String) : Pattern := .oneOf (.ofText s)

/-- Any character but those of a text. -/
def except (s : String) : Pattern := .oneOf (CharClass.ofText s).others

/-- One of several words. -/
def words (ws : List String) : Pattern := any (ws.map .text)

/-- The digits from `0` to `9`. -/
def digit : Pattern := .oneOf (.span '0' '9')

/-- A decimal number without a superfluous leading zero; underscores may separate its digits. -/
def decimalNumber : Pattern :=
  alt "0" (seq (.oneOf (.span '1' '9'))
    (opt (seq (opt "_") (sepBy1 (many1 digit) (many1 "_")))))

/-- Decimal digits; underscores may separate them. -/
def decimalDigits : Pattern := sepBy1 (many1 digit) "_"

/-- A hexadecimal digit. -/
def hexDigit : CharClass := .span 'A' 'F' ++ .span 'a' 'f' ++ .span '0' '9'

/-- Hexadecimal digits; underscores may separate them. -/
def hexDigits : Pattern := sepBy1 (many1 hexDigit) "_"

/-- The sign of an exponent, which may be missing. -/
def exponentSign : Pattern := opt (words ["-", "+"])

/-- A decimal exponent. -/
def exponent : Pattern := all [among "eE", exponentSign, decimalDigits]

/-- The mark of a floating-point type, which may be missing. -/
def floatMark : Pattern := opt (among "fFdD")

/-- The mark of a long integer, which may be missing. -/
def longMark : Pattern := opt (among "lL")

/-- A decimal floating-point number: it has a point, an exponent or a type mark. -/
def decimalFloat : Pattern := any [
  all [decimalDigits, ".", opt decimalDigits, opt exponent, floatMark],
  all [".", decimalDigits, opt exponent, floatMark],
  all [decimalNumber, among "eEpP", exponentSign, decimalDigits, floatMark],
  all [decimalNumber, opt exponent, among "fFdD"]]

/-- A hexadecimal floating-point number. -/
def hexFloat : Pattern := all [
  words ["0x", "0X"],
  alt (seq hexDigits (opt ".")) (all [opt hexDigits, ".", hexDigits]),
  opt (all [among "eEpP", exponentSign, decimalNumber, floatMark])]

/-- One or more characters, escaped or not, between quotes. -/
def character : Pattern := all ["'", many1 (any [
  except "\\'\n", seq "\\" (except "\n"), "\\\n"]), "'"]

/-- What a backslash may begin in a string. -/
def escape : Pattern := seq "\\" (any [
  except "xu01234567",
  (let octal : Pattern := .oneOf (.span '0' '7'); all [octal, opt octal, opt octal]),
  seq "x" (times 2 hexDigit),
  seq "u" (times 4 hexDigit),
  all ["u\x7b", many1 hexDigit, "\x7d"]])

/-- A comment between `/*` and `*/`. -/
def blockComment : Pattern := all [
  "/*", many (except "*"), many1 "*",
  many (all [except "/*", many (except "*"), many1 "*"]), "/"]

/-- The characters that an identifier may begin with. -/
def identifierStart : CharClass := ⟨Text.wordStartRanges⟩ ++ .ofText "_$"

/-- The characters that may go on an identifier. -/
def identifierPart : CharClass := identifierStart ++ ⟨Text.wordMarkRanges⟩ ++ .single '\u00a2'

/-- An identifier. -/
def identifier : Pattern := seq identifierStart (many identifierPart)

/-- Classes of one word each, shown without a name. -/
def plain (ws : List String) : List TokenClass :=
  ws.map fun w => { name := w, form := .plain, pattern := w }

/-- A class with named nodes. -/
def named (name : String) (pattern : Pattern) : TokenClass := { name, form := .named, pattern }

/-- The token classes. Which of them a state looks for depends on their order only where two match one text. -/
def classes : List TokenClass := [
  named "decimal_integer_literal" (seq decimalNumber longMark),
  named "hex_integer_literal" (all [words ["0x", "0X"], hexDigits, longMark]),
  named "octal_integer_literal" (all [words ["0o", "0O", "0"],
    sepBy1 (many1 (.oneOf (.span '0' '7'))) "_", longMark]),
  named "binary_integer_literal" (all [words ["0b", "0B"],
    sepBy1 (many1 (.oneOf (.span '0' '1'))) "_", longMark]),
  named "decimal_floating_point_literal" decimalFloat,
  named "hex_floating_point_literal" hexFloat,
  named "true" "true", named "false" "false",
  named "character_literal" character] ++
  plain ["\"", "\"\"\""] ++ [
  { name := "string_fragment", form := .named, pattern := many1 (except "\"\\"), weight := 1
    glued := true, elusive := true },
  { name := "multiline_run", form := .silent, pattern := many1 (except "\"\\"), elusive := true },
  { name := "multiline_quote", form := .silent, elusive := true
    pattern := seq "\"" (many (alt (except "\"\\") "\\\"")) }] ++
  plain ["\\\x7b", "\x7d"] ++ [
  { name := "escape_run", form := .silent, pattern := seq "\\" (except "bfnrts'\"\\"), glued := true },
  { name := "escape_sequence", form := .named, pattern := escape, glued := true },
  named "null_literal" "null"] ++
  plain ["(", ")", "&", "=", "+=", "-=", "*=", "/=", "&=", "|=", "^=", "%=", "<<=", ">>=", ">>>=",
    ">", "<", ">=", "<=", "==", "!=", "&&", "||", "+", "-", "*", "/", "|", "^", "%", "<<", ">>", ">>>",
    "instanceof", "final", "->", ",", "?", ":", "!", "~", "++", "--", "new", "[", "]", ".", "class",
    "::", "extends", "switch", "\x7b", "case", "default"] ++
  [named "underscore_pattern" "_"] ++
  plain ["when", ";", "assert", "do", "while", "break", "continue", "return", "yield",
    "synchronized", "throw", "try", "catch", "finally", "if", "else", "for", "@", "open", "module",
    "requires", "transitive", "static", "exports", "to", "opens", "uses", "provides", "with",
    "package", "import", "enum", "public", "protected", "private", "abstract", "strictfp", "native",
    "transient", "volatile", "sealed", "non-sealed", "implements", "permits", "record",
    "@interface", "interface", "byte", "short", "int", "long", "char", "float", "double"] ++
  [named "boolean_type" "boolean", named "void_type" "void"] ++
  plain ["...", "throws"] ++ [
  named "this" "this", named "super" "super",
  named "identifier" identifier,
  named "line_comment" (seq "//" (many (except "\n"))),
  named "block_comment" blockComment]

end Lexicon

/-- The lexicon of Java. -/
def lexicon : Grammar.Lexicon where
  classes := Lexicon.classes.toArray
  blanks := .span '\t' '\r' ++ .single ' '
  word := "identifier"

end TypeCensus.Java
