import Numeral.Text.Printable

/-!
# Quoted text and labels

A quoted text stands between single quotes, or between double quotes if it holds a single quote and
no double one. The quote in use and the backslash are escaped by a backslash, line feed, carriage
return and tab have letters of their own, and every other character without a visible form is
written by its code point in hexadecimal, in the shortest of three widths.

Members of a closed vocabulary are written and read as labels. What stands for no member is reported
by its quoted text.
-/

namespace Numeral

/-! ## Quoted text -/

/-- The code point `n` in lower-case hexadecimal, with zeros in front up to `width` digits. -/
def hexadecimal (width n : Nat) : List Char :=
  let digits := Nat.toDigits 16 n
  List.replicate (width - digits.length) '0' ++ digits

/-- The escape of a character by its code point. -/
def codePointEscape (c : Char) : List Char :=
  if c.toNat < 0x100 then '\\' :: 'x' :: hexadecimal 2 c.toNat
  else if c.toNat < 0x10000 then '\\' :: 'u' :: hexadecimal 4 c.toNat
  else '\\' :: 'U' :: hexadecimal 8 c.toNat

/-- The quote in use for `text`. -/
def quoteMark (text : List Char) : Char :=
  if '\'' ∈ text ∧ '"' ∉ text then '"' else '\''

/-- The written form of `c` between two `mark`s. -/
def escape (mark c : Char) : List Char :=
  if c = mark ∨ c = '\\' then ['\\', c]
  else if c = '\n' then ['\\', 'n']
  else if c = '\r' then ['\\', 'r']
  else if c = '\t' then ['\\', 't']
  else if isPrintable c then [c]
  else codePointEscape c

/-- `text` between quotes, on one line whatever it holds. -/
def quote (text : String) : String :=
  let mark := quoteMark text.toList
  String.ofList (mark :: text.toList.flatMap (escape mark) ++ [mark])

/-! ## Labels -/

/-- A closed vocabulary: its name, its members in order, and the label of each. -/
class Labelled (α : Type) where
  vocabulary : String
  members : List α
  label : α → String

export Labelled (label)

/-- A word or number, as it is shown, that stands for no member of the vocabulary. -/
structure UnknownLabel where
  shown : String
  vocabulary : String
  deriving DecidableEq, Repr

/-- The sentence that reports an unknown label. -/
def UnknownLabel.message (e : UnknownLabel) : String :=
  e.shown ++ " is not a valid " ++ e.vocabulary

/-- The member of the vocabulary that `text` stands for. -/
def ofLabel (α : Type) [Labelled α] (text : String) : Except UnknownLabel α :=
  match (Labelled.members (α := α)).find? (fun a => label a = text) with
  | some a => .ok a
  | none => .error ⟨quote text, Labelled.vocabulary α⟩

end Numeral
