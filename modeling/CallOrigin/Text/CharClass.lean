/-! # Classes of characters

A class is given by ranges of code points in increasing order. -/

namespace CallOrigin

/-- Ranges of code points, both ends included, in increasing order. -/
abbrev CharClass := List (Nat × Nat)

def CharClass.contains (ranges : CharClass) (c : Char) : Bool :=
  ranges.any fun r => r.1 ≤ c.toNat && c.toNat ≤ r.2

end CallOrigin
