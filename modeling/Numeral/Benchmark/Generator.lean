import Numeral.Base
import Numeral.Benchmark.Draws

/-!
# Generated declarations

Lines of declarations that are drawn at random. Most declare a name of their own, which is numbered
by the line; the others declare an earlier name once more. Every value starts with `0` or `1`, so
that it is read as a number, and goes on with digits of its base.
-/

namespace Numeral

/-- The digits of a base as they are drawn. -/
def Base.alphabet : Base → Array Char
  | bin => #['0', '1']
  | oct => #['0', '1', '2', '3', '4', '5', '6', '7']
  | hex => #['0', '1', '2', '3', '4', '5', '6', '7', '8', '9', 'a', 'b', 'c', 'd', 'e', 'f',
      'A', 'B', 'C', 'D', 'E', 'F']

theorem Base.alphabet_size_pos (b : Base) : 0 < b.alphabet.size := by
  cases b <;> simp [alphabet]

namespace Benchmark

/-- A declaration that was drawn. -/
structure Generated where
  base : Base
  name : String
  isFresh : Bool
  value : List Char
  isUpperCase : Bool
  deriving DecidableEq, Repr

namespace Generated

/-- The line of the declaration. -/
def line (g : Generated) : String :=
  (if g.isUpperCase then g.base.name else g.base.keyword) ++ " " ++ g.name ++ " " ++
    String.ofList g.value ++ ";"

end Generated

/-- `count` digits of a base. -/
def drawDigits (base : Base) : Nat → Draws → List Char × Draws
  | 0, d => ([], d)
  | count + 1, d =>
    let (digit, d) := d.choose base.alphabet base.alphabet_size_pos
    let (digits, d) := drawDigits base count d
    (digit :: digits, d)

/-- A value: a first digit and up to fifteen more. -/
def drawValue (base : Base) (d : Draws) : List Char × Draws :=
  let (first, d) := d.choose #['0', '1'] (by simp)
  let (count, d) := d.below 16
  let (digits, d) := drawDigits base count d
  (first :: digits, d)

/-- The name that line `index` may declare for the first time. -/
def freshName (index : Nat) : String :=
  "v" ++ toString index

/-- A name for line `index`, and whether it is fresh. Without earlier names none is drawn. -/
def drawName (rate : Rate) (index : Nat) (names : Array String) (d : Draws) :
    (String × Bool) × Draws :=
  if h : 0 < names.size then
    let (parts, d) := d.below Draws.fractionParts
    if rate.admits parts then
      let (name, d) := d.choose names h
      ((name, false), d)
    else ((freshName index, true), d)
  else ((freshName index, true), d)

/-- The declaration of line `index`, behind lines that declare `names`. -/
def drawDeclaration (rate : Rate) (index : Nat) (names : Array String) (d : Draws) :
    Generated × Draws :=
  let (base, d) := d.choose #[Base.bin, Base.oct, Base.hex] (by simp)
  let ((name, isFresh), d) := drawName rate index names d
  let (value, d) := drawValue base d
  let (parts, d) := d.below Draws.fractionParts
  ({ base := base, name := name, isFresh := isFresh, value := value,
     isUpperCase := 2 * parts < Draws.fractionParts }, d)

/-- `count` declarations from line `index` on, behind lines that declare `names`. -/
def generateFrom (rate : Rate) : Nat → Nat → Array String → Draws → List Generated
  | 0, _, _, _ => []
  | count + 1, index, names, d =>
    let (g, d) := drawDeclaration rate index names d
    g :: generateFrom rate count (index + 1) (if g.isFresh then names.push g.name else names) d

/-- `count` declarations. -/
def generate (rate : Rate) (count : Nat) (d : Draws) : List Generated :=
  generateFrom rate count 0 #[] d

end Benchmark

end Numeral
