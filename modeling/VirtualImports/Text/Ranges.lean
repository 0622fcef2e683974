/-!
Closed ranges of code points, the form in which the character tables are written down.
-/
namespace VirtualImports.Text

/-- A code point lies in one of the closed ranges. -/
def inRanges (ranges : List (Nat × Nat)) (point : Nat) : Bool :=
  ranges.any fun (low, high) => low ≤ point && point ≤ high

end VirtualImports.Text
