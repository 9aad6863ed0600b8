/-!
# Blanks

The characters that separate tokens without meaning anything: those with the Unicode property
White_Space.
-/

set_option autoImplicit false

namespace WhereClause.Text

/-- The ranges of code points with the property White_Space, both ends included. -/
def blankRanges : List (Nat × Nat) := [
  (0x9, 0xd), (0x20, 0x20), (0x85, 0x85), (0xa0, 0xa0), (0x1680, 0x1680), (0x2000, 0x200a),
  (0x2028, 0x2029), (0x202f, 0x202f), (0x205f, 0x205f), (0x3000, 0x3000)]

/-- Whether a character is a blank. -/
def isBlank (c : Char) : Bool :=
  blankRanges.any fun r ↦ r.1 ≤ c.toNat && c.toNat ≤ r.2

end WhereClause.Text
