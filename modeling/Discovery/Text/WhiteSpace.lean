import Discovery.Text.CharRanges

/-!
# White space

The characters with the Unicode property `White_Space`, and the two ways in which the library drops
them: `skipSpace` from the front of a text that is being read, `trim` from both ends of a value.
-/

namespace Discovery.Text

/-- The code points with the property `White_Space`. -/
def whiteSpaceRanges : CharRanges :=
  [(0x0009, 0x000D), (0x0020, 0x0020), (0x0085, 0x0085), (0x00A0, 0x00A0), (0x1680, 0x1680),
    (0x2000, 0x200A), (0x2028, 0x2029), (0x202F, 0x202F), (0x205F, 0x205F), (0x3000, 0x3000)]

def isWhiteSpace (c : Char) : Bool :=
  whiteSpaceRanges.holds c

/-- Drops the white space that a text begins with. -/
def skipSpace (cs : List Char) : List Char :=
  cs.dropWhile isWhiteSpace

/-- Drops the white space that a text ends with. -/
def skipSpaceEnd (cs : List Char) : List Char :=
  (cs.reverse.dropWhile isWhiteSpace).reverse

/-- Drops the white space at both ends of a text. -/
def trimChars (cs : List Char) : List Char :=
  skipSpaceEnd (skipSpace cs)

def trim (s : String) : String :=
  String.ofList (trimChars s.toList)

/-! ## Small laws -/

/-- What is left after skipping is no longer than what there was. -/
theorem length_skipSpace_le (cs : List Char) : (skipSpace cs).length ≤ cs.length :=
  (List.dropWhile_sublist _).length_le

/-- What is left after skipping is an end of what there was. -/
theorem skipSpace_suffix (cs : List Char) : skipSpace cs <:+ cs :=
  List.dropWhile_suffix _

/-- Dropping white space at the end does not make a text longer. -/
theorem length_skipSpaceEnd_le (cs : List Char) : (skipSpaceEnd cs).length ≤ cs.length := by
  simpa [skipSpaceEnd] using (List.dropWhile_sublist (l := cs.reverse) isWhiteSpace).length_le

end Discovery.Text
