/-!
# Ranges of code points

A property of characters is given by closed ranges of code points, listed in increasing
order.  Long lists are cut into parts.  The properties are those of Unicode 17.
-/

namespace InterfaceDocs.Text

/-- Whether a code point lies in one of the given ranges.  They are in increasing order, so
nothing is looked at beyond the first range that begins after the code point. -/
def inRanges : List (Nat × Nat) → Nat → Bool
  | [], _ => false
  | (first, last) :: ranges, code => first ≤ code && (code ≤ last || inRanges ranges code)

/-- Whether a code point lies in one of the given parts of a list of ranges. -/
def inParts (parts : List (List (Nat × Nat))) (code : Nat) : Bool :=
  parts.any fun ranges => inRanges ranges code

end InterfaceDocs.Text
