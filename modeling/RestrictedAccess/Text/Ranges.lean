/-
Sets of characters as ranges of their numbers. The tables of such ranges are kept in ascending
order, so that a look-up may stop at the first range that ends behind the character.
-/

namespace RestrictedAccess.Text

/-- Ranges of characters, each from its first to its last, in ascending order. -/
abbrev Ranges := List (Nat × Nat)

namespace Ranges

def holds : Ranges → Char → Bool
  | [], _ => false
  | (first, last) :: rest, c => if c.toNat ≤ last then first ≤ c.toNat else holds rest c

end Ranges

end RestrictedAccess.Text
