/-!
# Sets of characters as ranges of code points

The properties that the character standard gives to characters are tables of closed
ranges of code points.  All tables are those of version 16.0 of the standard.
-/

namespace TopicRelay

set_option autoImplicit false

/-- Closed ranges of code points, in increasing order. -/
abbrev CodeRanges : Type := List (Nat × Nat)

namespace CodeRanges

/-- Whether a character's code point lies in one of the ranges. -/
def contains (ranges : CodeRanges) (char : Char) : Bool :=
  ranges.any fun range => range.1 ≤ char.toNat && char.toNat ≤ range.2

end CodeRanges

end TopicRelay
