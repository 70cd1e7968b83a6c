/-!
# Blank — blanks and words

A blank is a character with the Unicode property `White_Space`.  Words are the longest runs of other characters; the
plain form of a text is its words with single spaces between them.
-/

namespace TypeCensus.Text

/-- The ranges of code points that are blanks. -/
def blankRanges : List (Nat × Nat) := [
  (0x09, 0x0D), (0x20, 0x20), (0x85, 0x85), (0xA0, 0xA0), (0x1680, 0x1680), (0x2000, 0x200A),
  (0x2028, 0x2029), (0x202F, 0x202F), (0x205F, 0x205F), (0x3000, 0x3000)]

/-- Whether a character is a blank. -/
def isBlank (c : Char) : Bool := blankRanges.any fun r => r.1 ≤ c.toNat && c.toNat ≤ r.2

/-- The words of a text. -/
def words (cs : List Char) : List (List Char) :=
  match cs with
  | [] => []
  | c :: rest =>
    if isBlank c then words rest
    else (c :: rest.takeWhile fun d => !isBlank d) :: words (rest.dropWhile fun d => !isBlank d)
termination_by cs.length
decreasing_by
  · simp
  · simp only [List.length_cons]
    exact Nat.lt_succ_of_le (List.dropWhile_sublist _).length_le

/-- The words of a text with single spaces between them. -/
def plain (s : String) : String := .ofList (List.intercalate [' '] (words s.toList))

/-- The text without the blanks at its end. -/
def trimEnd (cs : List Char) : List Char := (cs.reverse.dropWhile isBlank).reverse

/-- The number of bytes of the text without the blanks at its end. -/
def trimmedSize (s : String) : Nat := (String.ofList (trimEnd s.toList)).utf8ByteSize

end TypeCensus.Text
