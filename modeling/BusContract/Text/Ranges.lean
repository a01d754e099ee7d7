/-!
# Sets of characters given by ranges

A character class of a standard is a table of code point ranges, both ends included. This module
holds the membership test that all tables share.
-/

namespace BusContract

/-- A set of characters as ranges of code points, both ends included. -/
structure CharRanges where
  ranges : Array (Nat × Nat)

/-- A character belongs to the set when some range holds its code point. -/
def CharRanges.contains (set : CharRanges) (c : Char) : Bool :=
  set.ranges.any fun (low, high) => low ≤ c.toNat && c.toNat ≤ high

end BusContract
