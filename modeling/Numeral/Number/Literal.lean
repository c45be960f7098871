import Numeral.Number.Binary64
import Numeral.Text.Word

/-!
# Number literals

The texts that stand for integers and for real numbers on a command line. Blanks around the number
and decimal digits of any script are allowed, and single underscores between digits. Real numbers
may have a fraction and a power of ten, and may be infinite or no number at all.

Each script has its ten decimal digits in a row (Unicode 14), so a digit is given by the zero of its
script and its value.
-/

namespace Numeral

/-! ## Decimal digits -/

/-- The digit zero of every script, in ascending order. -/
def digitZeros : List Nat := [
    0x30, 0x660, 0x6F0, 0x7C0, 0x966, 0x9E6, 0xA66, 0xAE6, 0xB66, 0xBE6, 0xC66, 0xCE6, 0xD66,
    0xDE6, 0xE50, 0xED0, 0xF20, 0x1040, 0x1090, 0x17E0, 0x1810, 0x1946, 0x19D0, 0x1A80, 0x1A90,
    0x1B50, 0x1BB0, 0x1C40, 0x1C50, 0xA620, 0xA8D0, 0xA900, 0xA9D0, 0xA9F0, 0xAA50, 0xABF0,
    0xFF10, 0x104A0, 0x10D30, 0x11066, 0x110F0, 0x11136, 0x111D0, 0x112F0, 0x11450, 0x114D0,
    0x11650, 0x116C0, 0x11730, 0x118E0, 0x11950, 0x11C50, 0x11D50, 0x11DA0, 0x16A60, 0x16AC0,
    0x16B50, 0x1D7CE, 0x1D7D8, 0x1D7E2, 0x1D7EC, 0x1D7F6, 0x1E140, 0x1E2F0, 0x1E950, 0x1FBF0]

/-- The value of a decimal digit of any script. -/
def digitValue? (c : Char) : Option Nat :=
  (digitZeros.find? fun z => z ≤ c.toNat && c.toNat < z + 10).map (c.toNat - ·)

namespace Literal

/-! ## Integers and real numbers -/

/-- Whether `c` is an ASCII blank. -/
def isAsciiBlank (c : Char) : Bool :=
  c = ' ' || ('\t' ≤ c && c ≤ '\r')

/-- `c` with digits and blanks of other scripts made ASCII. -/
def asciiForm? (c : Char) : Option Char :=
  if c.toNat < 0x80 then some c
  else if isBlank c then some ' '
  else (digitValue? c).map Nat.digitChar

/-- `cs` without the blanks at its ends. -/
def trim (cs : List Char) : List Char :=
  ((cs.dropWhile isAsciiBlank).reverse.dropWhile isAsciiBlank).reverse

/-- The ASCII form of a text without the blanks at its ends. -/
def prepare? (text : String) : Option (List Char) :=
  (text.toList.mapM asciiForm?).map trim

/-- The sign at the head of `cs`, negative or not, and what follows it. -/
def takeSign : List Char → Bool × List Char
  | '+' :: rest => (false, rest)
  | '-' :: rest => (true, rest)
  | cs => (false, cs)

/-- The number that decimal digits stand for. -/
def ofDigits (digits : List Char) : Nat :=
  digits.foldl (fun n c => 10 * n + (c.toNat - '0'.toNat)) 0

/-- `cs` without its underscores, if each of them stands between two digits. -/
def dropUnderscores? : List Char → Option (List Char)
  | [] => some []
  | '_' :: _ => none
  | c :: '_' :: d :: rest =>
    if c.isDigit && d.isDigit then (dropUnderscores? (d :: rest)).map (c :: ·) else none
  | c :: rest => (dropUnderscores? rest).map (c :: ·)

/-- The most digits that an integer may have. -/
def maxDigits : Nat := 4300

/-- The integer that `text` stands for. -/
def int? (text : String) : Option Int := do
  let (negative, body) := takeSign (← prepare? text)
  let digits ← dropUnderscores? body
  if digits.isEmpty || !digits.all Char.isDigit || maxDigits < digits.length then none
  else if negative then some (-(ofDigits digits : Int)) else some (ofDigits digits)

/-- A real number as a literal gives it. -/
inductive Real where
  | number (value : Binary64)
  | notANumber
  deriving DecidableEq, Repr

/-- `mantissa · 10 ^ power`, rounded to the binary format. Powers so large or small that no digit
matters are settled by the number of digits. -/
def scaled (negative : Bool) (mantissa : List Char) (power : Int) : Binary64 :=
  let n := ofDigits mantissa
  let digits : Int := (Nat.toDigits 10 n).length
  if n = 0 ∨ digits + power < -400 then .finite negative 0
  else if 400 < digits + power then .infinite negative
  else
    .ofMagnitude negative <|
      if 0 ≤ power then ((n * Nat.pow 10 power.toNat : Nat) : Rat)
      else mkRat n (Nat.pow 10 (-power).toNat)

/-- The power of ten behind a mantissa: nothing, or the letter `e` and an integer. -/
def power? : List Char → Option Int
  | [] => some 0
  | c :: rest =>
    let (negative, digits) := takeSign rest
    if c.toLower = 'e' && !digits.isEmpty && digits.all Char.isDigit then
      some (if negative then -(ofDigits digits : Int) else ofDigits digits)
    else none

/-- The real number that `cs`, without a sign, stands for. -/
def unsigned? (negative : Bool) (cs : List Char) : Option Real :=
  let word := String.ofList (cs.map Char.toLower)
  if word = "nan" then some .notANumber
  else if word = "inf" ∨ word = "infinity" then some (.number (.infinite negative))
  else do
    let whole := cs.takeWhile Char.isDigit
    let behind := cs.dropWhile Char.isDigit
    let (fraction, tail) :=
      match behind with
      | '.' :: rest => (rest.takeWhile Char.isDigit, rest.dropWhile Char.isDigit)
      | _ => ([], behind)
    let mantissa := whole ++ fraction
    if mantissa.isEmpty then none
    let power ← power? tail
    return .number (scaled negative mantissa (power - fraction.length))

/-- The real number that `text` stands for. -/
def real? (text : String) : Option Real := do
  let (negative, body) := takeSign (← dropUnderscores? (← prepare? text))
  unsigned? negative body

end Literal

end Numeral
