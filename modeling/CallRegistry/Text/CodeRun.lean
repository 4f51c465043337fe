/-!
# Runs of characters

A class of characters is a list of runs: characters that stand side by side in
the order of their codes, or at equal distances from each other.
-/

namespace CallRegistry.Text

/-- The codes from a first to a last one, in steps of the third number. -/
abbrev CodeRun := Nat × Nat × Nat

def inRuns (runs : List CodeRun) (n : Nat) : Bool :=
  runs.any fun (first, last, step) =>
    first ≤ n && n ≤ last && (n - first) % step == 0

end CallRegistry.Text
