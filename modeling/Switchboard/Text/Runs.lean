/-!
# Runs of code points

Properties of characters are kept as runs of code points, each with its first and its last one.
-/

namespace Switchboard.Text

/-- Whether a code point lies in a run. -/
def inRuns (runs : List (Nat × Nat)) (n : Nat) : Bool :=
  runs.any fun run => run.1 ≤ n && n ≤ run.2

end Switchboard.Text
