import Numeral.Diagnostic
import Numeral.Text.Quoted
import Numeral.Token.Pattern

/-!
# Scanners

A scanner stands at an offset of a line and gives its tokens one after the other. It passes over
blanks, takes the first pattern that applies, and makes an invalid token of a character that no
pattern takes, so that it never fails. At the end of the line it gives the end token, as often as
it is asked.
-/

namespace Numeral

/-- A line, the offset reached, the characters from there on, and a diagnostic for every invalid
character passed. -/
structure Scanner where
  source : String
  offset : Nat
  rest : List Char
  diagnostics : List Diagnostic
  deriving DecidableEq, Repr

/-- The report of a character that no pattern takes. -/
def Diagnostic.ofInvalidCharacter (offset : Nat) (c : Char) : Diagnostic :=
  Code.invalidCharacter.report (.ofLength offset 1)
    (some ("Unrecognized character " ++ quote (String.singleton c) ++ "."))

namespace Scanner

/-- The scanner at the start of `source`. -/
def ofText (source : String) : Scanner where
  source := source
  offset := 0
  rest := source.toList
  diagnostics := []

/-- Whether the scanner is behind the last character. Blanks that it did not pass yet count. -/
def isAtEnd (s : Scanner) : Bool :=
  s.rest.isEmpty

/-- The scanner behind the next `n` characters. -/
def advance (n : Nat) (s : Scanner) : Scanner :=
  { s with offset := s.offset + n, rest := s.rest.drop n }

/-- The scanner behind the blanks that come next. -/
def skipBlanks (s : Scanner) : Scanner :=
  s.advance (s.rest.takeWhile isBlank).length

/-- The token of the next `n` characters, and the scanner behind it. -/
def accept (kind : Kind) (n : Nat) (s : Scanner) : Token × Scanner :=
  (.ofChars kind s.offset (s.rest.take n), s.advance n)

/-- The invalid token of the next character `c`, and the scanner behind it. -/
def reject (c : Char) (s : Scanner) : Token × Scanner :=
  (.ofChars .invalid s.offset [c],
    { s.advance 1 with diagnostics := s.diagnostics ++ [.ofInvalidCharacter s.offset c] })

/-- The token at the offset reached, where no blank stands, and the scanner behind it. -/
def step (s : Scanner) : Token × Scanner :=
  match s.rest with
  | [] => (.endAt s.offset, s)
  | c :: _ =>
    match Pattern.first? Pattern.table s.rest with
    | some (kind, n) => s.accept kind n
    | none => s.reject c

/-- The next token, and the scanner behind it. -/
def next (s : Scanner) : Token × Scanner :=
  s.skipBlanks.step

/-- The next tokens up to the end of the line, at most `n` of them. -/
def take : Nat → Scanner → List Token × Scanner
  | 0, s => ([], s)
  | n + 1, s =>
    let (t, s) := s.next
    if t.kind = .endOfLine then ([t], s)
    else
      let (ts, s) := take n s
      (t :: ts, s)

/-- The tokens up to the end of the line, and the scanner behind them. Every token before the end
takes a character, so that their number is bounded. -/
def drain (s : Scanner) : List Token × Scanner :=
  s.take (s.rest.length + 1)

end Scanner

/-- The tokens of a line, of which exactly the last one is the end of the line. -/
def tokensOf (source : String) : List Token :=
  (Scanner.ofText source).drain.1

end Numeral
