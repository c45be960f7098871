import Numeral.Benchmark.Draws
import Numeral.Text.LineStream

/-!
# The environment of a benchmark

What a benchmark takes from outside: a generator of random numbers, a progress bar and the readings
of a clock. What becomes of a seed and what a progress bar does with lines is left open.

- `Environment.IsReliable`: what is relied on where a benchmark is to complete.
-/

namespace Numeral.Benchmark

/-- A progress bar over some lines: what it writes to the errors when it is set up and while its
lines are taken, and the lines that it hands on. -/
structure Progress where
  opening : String
  running : String
  handedOn : LineStream String
  deriving DecidableEq, Repr

/-- The lines alone, without a progress bar. -/
def Progress.hidden (lines : List String) : Progress where
  opening := ""
  running := ""
  handedOn := { lines }

/-- What a benchmark takes from outside. -/
structure Environment where
  /-- The numbers drawn from a seed, unless the generator refuses it. The seed can be absent. -/
  generator : Option Int → Option Draws
  /-- The progress bar over some lines. -/
  progress : List String → Progress
  /-- The first reading of the clock, in seconds. -/
  start : Rat
  /-- The second reading of the clock, in seconds. -/
  stop : Rat

/-- What is relied on of the environment: every integer is a seed, and a progress bar hands on the
lines that it is given. Nothing is said of an absent seed, of the numbers drawn, of what the
progress bar writes or of the clock. -/
structure Environment.IsReliable (e : Environment) : Prop where
  takesSeed : ∀ seed : Int, ∃ draws, e.generator (some seed) = some draws
  handsOn : ∀ lines, (e.progress lines).handedOn = { lines }

end Numeral.Benchmark
