import Numeral.Token
import Numeral.Text.Word

/-!
# Token patterns

A pattern says which characters at the head of a text make a token of its kind: one character for
each leading class of its form, and behind them some of the class that it may go on with. A symbol is
one character. Every other form is a word form: it takes as many characters as it can take so that it
ends at a word boundary.

The patterns stand in order of priority. Letters are compared after folding their case, and with
them the four non-ASCII letters whose case folds to an ASCII letter.
-/

namespace Numeral

/-- The ASCII letter or digit that `c` equals up to case: the dotted capital and the dotless small
`i` count as `i`, the long `s` as `s` and the Kelvin sign as `k`. -/
def foldCase (c : Char) : Char :=
  if c = '\u0130' ∨ c = '\u0131' then 'i'
  else if c = '\u017F' then 's'
  else if c = '\u212A' then 'k'
  else c.toLower

/-- Whether an identifier may start with `c`. -/
def isIdentifierStart (c : Char) : Bool :=
  (foldCase c).isLower || c = '_'

/-- Whether an identifier may go on with `c`. -/
def isIdentifierRest (c : Char) : Bool :=
  isIdentifierStart c || c.isDigit

/-- Whether a word starts or ends between two neighbours. At an end of the text one is absent. -/
def isWordBoundary (before after : Option Char) : Bool :=
  before.any isWord != after.any isWord

/-- Whether `cs` starts with one character of each of the classes, in their order. -/
def startsWith : List (Char → Bool) → List Char → Bool
  | [], _ => true
  | _ :: _, [] => false
  | p :: ps, c :: cs => p c && startsWith ps cs

/-- The number of characters of the class `p` that are taken from the head of `cs`, so that a word
boundary is behind them: one more is taken wherever a boundary can be reached with it. The character
in front of `cs` is `before`. -/
def takeToBoundary (p : Char → Bool) (before : Option Char) : List Char → Option Nat
  | [] => if isWordBoundary before none then some 0 else none
  | c :: cs =>
    match if p c then takeToBoundary p (some c) cs else none with
    | some n => some (n + 1)
    | none => if isWordBoundary before (some c) then some 0 else none

/-- The form of a token's text. -/
inductive Form where
  | symbol (c : Char)
  | keyword (spelling : List Char)
  | identifier
  | numeral (base : Base)
  deriving DecidableEq, Repr

namespace Form

/-- The classes of the characters that the form starts with, one for each character. -/
def leading : Form → List (Char → Bool)
  | symbol s => [fun c => c = s]
  | keyword spelling => spelling.map fun letter c => foldCase c = letter
  | identifier => [isIdentifierStart]
  | numeral base => [base.isDigit]

/-- Whether the form may go on with `c` behind its leading characters, any number of times. -/
def goesOnWith : Form → Char → Bool
  | identifier, c => isIdentifierRest c
  | numeral base, c => base.isDigit c
  | symbol _, _ | keyword _, _ => false

/-- Whether the form has to end at a word boundary. -/
def isWordForm : Form → Bool
  | symbol _ => false
  | _ => true

/-- The number of characters at the head of `cs` that the form takes. -/
def length? (f : Form) (cs : List Char) : Option Nat :=
  let least := f.leading.length
  if startsWith f.leading cs then
    if f.isWordForm then
      (takeToBoundary f.goesOnWith (cs.take least).getLast? (cs.drop least)).map (least + ·)
    else some least
  else none

end Form

/-- A form and the kind of the tokens that have it. -/
structure Pattern where
  kind : Kind
  form : Form
  deriving DecidableEq, Repr

namespace Pattern

/-- The patterns in order of priority: keywords come before identifiers, identifiers before
numbers, and numbers in ascending order of their bases. -/
def table : List Pattern := [
  ⟨.plus, .symbol '+'⟩,
  ⟨.minus, .symbol '-'⟩,
  ⟨.times, .symbol '*'⟩,
  ⟨.divide, .symbol '/'⟩,
  ⟨.openParen, .symbol '('⟩,
  ⟨.closeParen, .symbol ')'⟩,
  ⟨.semicolon, .symbol ';'⟩,
  ⟨.keyword .bin, .keyword ['b', 'i', 'n']⟩,
  ⟨.keyword .oct, .keyword ['o', 'c', 't']⟩,
  ⟨.keyword .hex, .keyword ['h', 'e', 'x']⟩,
  ⟨.identifier, .identifier⟩,
  ⟨.number .bin, .numeral .bin⟩,
  ⟨.number .oct, .numeral .oct⟩,
  ⟨.number .hex, .numeral .hex⟩]

/-- The kind and the length of the token at the head of `cs`, by the first of `patterns` that takes
some of it. -/
def first? (patterns : List Pattern) (cs : List Char) : Option (Kind × Nat) :=
  patterns.findSome? fun p => (p.form.length? cs).map (p.kind, ·)

end Pattern

end Numeral
