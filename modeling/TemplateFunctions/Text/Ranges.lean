import TemplateFunctions.Text.Basic

/-!
Classes of characters that are given by ranges of code points.

* `within`: whether a character lies in a range.
* `isWhite`: the white space of Unicode.
-/

namespace TemplateFunctions

namespace Text

/-- Whether the code point of the character lies in the range, ends included. -/
def within (c : Char) (range : Nat × Nat) : Bool :=
  range.1 ≤ c.toNat && c.toNat ≤ range.2

/-- The ranges of white space. -/
def whiteRanges : List (Nat × Nat) :=
  [ (0x09, 0x0d), (0x20, 0x20), (0x85, 0x85), (0xa0, 0xa0), (0x1680, 0x1680), (0x2000, 0x200a),
    (0x2028, 0x2029), (0x202f, 0x202f), (0x205f, 0x205f), (0x3000, 0x3000) ]

/-- The white space of Unicode. -/
def isWhite (c : Char) : Bool :=
  whiteRanges.any (within c)

end Text

end TemplateFunctions
