/-!
# Rounding

Quotients rounded to the nearest natural number, a half going to the even neighbour, and magnitudes
with fixed decimal places, rounded so.

- `le_roundDiv_mul`: the rounded quotient falls short of the exact one by at most a half.
-/

namespace Numeral

/-- `num / den` rounded to the nearest natural number; a half goes to the even neighbour. -/
def roundDiv (num den : Nat) : Nat :=
  let quotient := num / den
  let rest := num % den
  if 2 * rest < den then quotient
  else if den < 2 * rest then quotient + 1
  else quotient + quotient % 2

/-- The rounded quotient falls short of the exact one by at most a half. -/
theorem le_roundDiv_mul (num : Nat) {den : Nat} (h : 0 < den) :
    2 * num ≤ 2 * (roundDiv num den * den) + den := by
  have hd := Nat.div_add_mod num den
  have hm := Nat.mod_lt num h
  unfold roundDiv
  simp only
  split
  · rw [Nat.mul_comm (num / den)]
    omega
  · split
    · rw [Nat.add_mul, Nat.mul_comm (num / den)]
      omega
    · rw [Nat.add_mul, Nat.mul_comm (num / den)]
      omega

/-- The digits of `n` with `places` of them behind the point. -/
def insertPoint (places n : Nat) : String :=
  let fraction := toString (n % Nat.pow 10 places)
  toString (n / Nat.pow 10 places) ++ "." ++
    String.ofList (List.replicate (places - fraction.length) '0') ++ fraction

/-- The magnitude of `q` with `places` digits behind the point. -/
def fixedPlaces (places : Nat) (q : Rat) : String :=
  insertPoint places (roundDiv (q.num.natAbs * Nat.pow 10 places) q.den)

end Numeral
