import Numeral.Benchmark.Tally
import Numeral.Number.Binary64

/-!
# Timing reports

The report of a run: the number of lines, the tally, the time taken, and the two speeds. All
arithmetic is that of the 64-bit binary format. Without elapsed time the speeds are undefined, and
the report breaks off.
-/

namespace Numeral.Benchmark

/-- Why a report breaks off. -/
inductive ReportError where
  | divisionByZero
  deriving DecidableEq, Repr

/-- The sentence that reports why a report breaks off. -/
def ReportError.message : ReportError → String
  | divisionByZero => "float division by zero"

/-- Lines per second. -/
def linesPerSecond (lines : Nat) (seconds : Binary64) : Binary64 :=
  .natDiv lines seconds

/-- Microseconds per line. -/
def microsPerLine (lines : Nat) (seconds : Binary64) : Binary64 :=
  (seconds.divNat lines).mulNat 1000000

/-- The lines of the report that need no division. -/
def reportHead (lines : Nat) (tally : Tally) (seconds : Binary64) : List String :=
  ("Lines: " ++ toString lines) ::
    (Labelled.members.map fun outcome : Outcome =>
      "  " ++ label outcome ++ ": " ++ toString (tally.count outcome)) ++
    ["Elapsed: " ++ seconds.toFixed 4 ++ "s"]

/-- The lines of the report, and why it breaks off if it does. -/
def report (lines : Nat) (tally : Tally) (seconds : Binary64) :
    List String × Option ReportError :=
  let head := reportHead lines tally seconds
  if seconds.toRat? = some 0 then (head, some .divisionByZero)
  else
    (head ++ ["Lines/s: " ++ (linesPerSecond lines seconds).toFixed 1,
      "us/line: " ++ (microsPerLine lines seconds).toFixed 2], none)

end Numeral.Benchmark
