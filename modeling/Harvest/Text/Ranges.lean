/-!
Sets of characters given as tables of code points.
-/

namespace Harvest.Text

abbrev Ranges := List (Nat × Nat)

def Ranges.contains (table : Ranges) (c : Char) : Bool :=
  table.any fun (first, last) => first ≤ c.toNat && c.toNat ≤ last

/-- The ranges of a list that says in turn how many code points lie before a range and how many it
has. The code points are counted from `start` on. -/
def Ranges.ofSizes (start : Nat) : List Nat → Ranges
  | gap :: size :: sizes =>
      (start + gap, start + gap + size - 1) :: ofSizes (start + gap + size) sizes
  | _ => []

end Harvest.Text
