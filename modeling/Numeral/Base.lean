import Numeral.Text.Quoted

/-!
# Bases

The bases that a variable can be declared in, with their digits.

- `accepts_iff`: a base accepts the non-empty texts of its digits.
- `isDigit_mono`: a digit of a base is a digit of every larger one.
-/

namespace Numeral

/-- A base of numerals. -/
inductive Base where
  | bin
  | oct
  | hex
  deriving DecidableEq, Repr

namespace Base

/-- The word that stands for the base in a declaration. -/
def keyword : Base → String
  | bin => "bin"
  | oct => "oct"
  | hex => "hex"

/-- The name of the base in messages. -/
def name : Base → String
  | bin => "BIN"
  | oct => "OCT"
  | hex => "HEX"

/-- Bases in order of their digit sets. -/
def rank : Base → Nat
  | bin => 1
  | oct => 2
  | hex => 3

instance : Labelled Base where
  vocabulary := "Base"
  members := [bin, oct, hex]
  label := keyword

/-- Whether `c` is a digit of the base. Digits above nine are letters of either case. -/
def isDigit : Base → Char → Bool
  | bin, c => '0' ≤ c && c ≤ '1'
  | oct, c => '0' ≤ c && c ≤ '7'
  | hex, c => '0' ≤ c && c ≤ '9' || 'a' ≤ c && c ≤ 'f' || 'A' ≤ c && c ≤ 'F'

/-- Whether `cs` is a numeral of the base: some characters, all of them its digits. -/
def isNumeral (b : Base) (cs : List Char) : Bool :=
  !cs.isEmpty && cs.all b.isDigit

/-- Whether the base accepts `literal` as a value. -/
def accepts (b : Base) (literal : String) : Bool :=
  b.isNumeral literal.toList

theorem isNumeral_iff {b : Base} {cs : List Char} :
    b.isNumeral cs = true ↔ cs ≠ [] ∧ ∀ c ∈ cs, b.isDigit c = true := by
  simp [isNumeral]

theorem accepts_iff {b : Base} {literal : String} :
    b.accepts literal = true ↔ literal ≠ "" ∧ ∀ c ∈ literal.toList, b.isDigit c = true := by
  simp [accepts, isNumeral_iff]

theorem isDigit_mono {a b : Base} (h : a.rank ≤ b.rank) {c : Char} (hc : a.isDigit c = true) :
    b.isDigit c = true := by
  cases a <;> cases b <;> simp_all [rank, isDigit, Char.le_def, UInt32.le_iff_toNat_le]
  all_goals omega

end Base

end Numeral
