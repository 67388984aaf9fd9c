/-! Membership of code points in tables of ranges. -/
namespace ScenarioCheck.Text

def inRanges (ranges : List (Nat × Nat)) (code : Nat) : Bool :=
  ranges.any fun r => r.1 ≤ code && code ≤ r.2

end ScenarioCheck.Text
