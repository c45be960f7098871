import Numeral.Number.Rounding

/-!
# Binary64

The numbers of the 64-bit binary format, and rational numbers rounded to the nearest of them, a half
going to the even neighbour. Rounding is done on the rational number itself and is exact. A magnitude
that rounds beyond the largest one of the format is infinite.
-/

namespace Numeral

/-- A number of the format. Zero has a sign too. -/
inductive Binary64 where
  | finite (negative : Bool) (magnitude : Rat)
  | infinite (negative : Bool)
  deriving DecidableEq, Repr

namespace Binary64

/-! ## Rounding -/

/-- The exponent `e` with `2 ^ e ≤ num / den < 2 ^ (e + 1)`, for positive `num` and `den`. -/
def exponent (num den : Nat) : Int :=
  let estimate : Int := (num.log2 : Int) - den.log2
  let isBelow :=
    if 0 ≤ estimate then num < den * Nat.pow 2 estimate.toNat
    else num * Nat.pow 2 (-estimate).toNat < den
  if isBelow then estimate - 1 else estimate

/-- The exponent of the last binary place that the format keeps of `num / den`. -/
def lastPlace (num den : Nat) : Int :=
  max (exponent num den - 52) (-1074)

/-- `num / den` rounded to the binary places that the format keeps. -/
def roundQuotient (num den : Nat) : Rat :=
  let place := lastPlace num den
  if num = 0 then 0
  else if 0 ≤ place then
    ((roundDiv num (den * Nat.pow 2 place.toNat) * Nat.pow 2 place.toNat : Nat) : Rat)
  else
    mkRat (roundDiv (num * Nat.pow 2 (-place).toNat) den) (Nat.pow 2 (-place).toNat)

/-- The least power of two beyond the format. -/
def bound : Rat := (Nat.pow 2 1024 : Rat)

/-- The number nearest to the magnitude of `q`, with a sign. -/
def ofMagnitude (negative : Bool) (q : Rat) : Binary64 :=
  let rounded := roundQuotient q.num.natAbs q.den
  if bound ≤ rounded then .infinite negative else .finite negative rounded

/-- The number nearest to `q`. -/
def ofRat (q : Rat) : Binary64 :=
  ofMagnitude (q < 0) q

/-- The rational number that a finite number is. -/
def toRat? : Binary64 → Option Rat
  | finite negative magnitude => some (if negative then -magnitude else magnitude)
  | infinite _ => none

/-- A quotient of integers has no finite number next to it. -/
inductive QuotientError where
  | tooLarge
  deriving DecidableEq, Repr

/-- The sentence that reports a quotient that is too large. -/
def QuotientError.message : QuotientError → String
  | tooLarge => "integer division result too large for a float"

/-- The finite number nearest to the quotient `q`. -/
def ofQuotient (q : Rat) : Except QuotientError Rat :=
  match (ofRat q).toRat? with
  | some r => .ok r
  | none => .error .tooLarge

/-! ## Arithmetic -/

/-- The quotient of a number and a natural number. -/
def divNat (x : Binary64) (n : Nat) : Binary64 :=
  match x with
  | finite negative magnitude => ofMagnitude negative (magnitude / n)
  | infinite negative => infinite negative

/-- The product of a number and a natural number. -/
def mulNat (x : Binary64) (n : Nat) : Binary64 :=
  match x with
  | finite negative magnitude => ofMagnitude negative (magnitude * n)
  | infinite negative => infinite negative

/-- The quotient of a natural number and a number that is not zero. -/
def natDiv (n : Nat) (x : Binary64) : Binary64 :=
  match x with
  | finite negative magnitude => ofMagnitude negative (n / magnitude)
  | infinite negative => finite negative 0

/-! ## Text -/

/-- The number with `places` digits behind the point. A negative number keeps its sign even where all
the digits are zero. -/
def toFixed (places : Nat) (x : Binary64) : String :=
  match x with
  | finite negative magnitude => sign negative ++ fixedPlaces places magnitude
  | infinite negative => sign negative ++ "inf"
where
  sign (negative : Bool) : String := if negative then "-" else ""

end Binary64

end Numeral
