/-!
# Blank characters

Two sets of characters count as blank. `isWhiteSpace` is the Unicode property `White_Space`;
it is what numerals are trimmed of. `isBlank` adds the four information separators
U+001C to U+001F; it is what makes the segment of a name empty.
-/

namespace BrokerClient.Text

/-- The ranges of the Unicode property `White_Space`. -/
def whiteSpaceRanges : List (Nat × Nat) :=
  [(0x09, 0x0d), (0x20, 0x20), (0x85, 0x85), (0xa0, 0xa0), (0x1680, 0x1680),
    (0x2000, 0x200a), (0x2028, 0x2029), (0x202f, 0x202f), (0x205f, 0x205f), (0x3000, 0x3000)]

/-- Whether a code point lies in one of the given closed ranges. -/
def inRanges (ranges : List (Nat × Nat)) (n : Nat) : Bool :=
  ranges.any fun r => r.1 ≤ n && n ≤ r.2

/-- The Unicode property `White_Space`. -/
def isWhiteSpace (c : Char) : Bool :=
  inRanges whiteSpaceRanges c.toNat

/-- White space and the information separators U+001C to U+001F. -/
def isBlank (c : Char) : Bool :=
  isWhiteSpace c || inRanges [(0x1c, 0x1f)] c.toNat

/-- A text without any character that is not blank. The empty text is one. -/
def isBlankText (s : String) : Bool :=
  s.toList.all isBlank

/-- Drops the characters that satisfy `p` at both ends. -/
def trimBy (p : Char → Bool) (cs : List Char) : List Char :=
  ((cs.dropWhile p).reverse.dropWhile p).reverse

/-- The empty text is blank. -/
@[simp]
theorem isBlankText_empty : isBlankText "" = true := by decide

end BrokerClient.Text
