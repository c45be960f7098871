import Numeral.Number.Literal

/-!
# Draws

A stream of natural numbers from which choices are drawn one after the other.
-/

namespace Numeral.Benchmark

/-- A stream of natural numbers and the place of the next one. -/
structure Draws where
  stream : Nat → Nat
  position : Nat := 0

namespace Draws

/-- The stream that repeats `numbers` without end. -/
def cycle (numbers : Array Nat) : Draws where
  stream n := numbers.getD (n % numbers.size) 0

/-- The next number. -/
def next (d : Draws) : Nat × Draws :=
  (d.stream d.position, { d with position := d.position + 1 })

/-- A member of `choices`. -/
def choose {α : Type} (choices : Array α) (h : 0 < choices.size) (d : Draws) : α × Draws :=
  let (n, d) := d.next
  have := Nat.mod_lt n h
  (choices[n % choices.size], d)

/-- A number below `bound`. -/
def below (bound : Nat) (d : Draws) : Nat × Draws :=
  let (n, d) := d.next
  (n % bound, d)

/-- The parts into which the unit interval is divided by a fraction that is drawn. They stand for
the 2 ^ 53 parts of a generator of 64-bit binary numbers; nothing that is proved of draws depends on
how many they are. -/
def fractionParts : Nat := 1024

end Draws

/-- The share of the fractions drawn that count. -/
inductive Rate where
  | share (value : Rat)
  | always
  | never
  deriving DecidableEq, Repr

namespace Rate

/-- The rate that a number gives: the fractions below it count. -/
def ofBinary64 : Binary64 → Rate
  | .finite negative magnitude => share (if negative then -magnitude else magnitude)
  | .infinite negative => if negative then never else always

/-- The rate that a literal gives. No fraction is below what is not a number. -/
def ofReal : Literal.Real → Rate
  | .number value => ofBinary64 value
  | .notANumber => never

/-- The rate of `numerator` parts in `denominator`. -/
def ofQuotient (numerator : Int) (denominator : Nat) : Except Binary64.QuotientError Rate :=
  (Binary64.ofQuotient (mkRat numerator denominator)).map share

/-- A tenth. -/
def tenth : Rate :=
  ofBinary64 (.ofRat (mkRat 1 10))

/-- Whether a fraction of `parts` parts counts. -/
def admits (r : Rate) (parts : Nat) : Bool :=
  match r with
  | share value => mkRat parts Draws.fractionParts < value
  | always => true
  | never => false

end Rate

end Numeral.Benchmark
