/-!
# Runs of code points

A character class beyond ASCII is a list of arithmetic runs of code points. A run has a step because
in several alphabets upper and lower case letters alternate.
-/

namespace EntityQuery.Text

/-- The code points `first`, `first + step`, … that do not pass `last`. -/
structure Run where
  first : Nat
  last : Nat
  step : Nat

/-- Whether a code point lies on the run. -/
def Run.contains (r : Run) (n : Nat) : Bool :=
  decide (r.first ≤ n) && decide (n ≤ r.last) && (n - r.first) % r.step == 0

/-- A run whose members are all shifted by the same amount, so that `first` goes to `image`. -/
structure CaseRun where
  run : Run
  image : Nat

/-- The image of a code point under the shift, if it lies on the run. -/
def CaseRun.apply? (r : CaseRun) (n : Nat) : Option Nat :=
  if r.run.contains n then some (r.image + (n - r.run.first)) else none

/-- Whether a code point lies on one of the runs. -/
def inRuns (runs : List Run) (n : Nat) : Bool :=
  runs.any fun r => r.contains n

end EntityQuery.Text
