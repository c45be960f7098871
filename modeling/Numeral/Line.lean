import Numeral.Token.Scanner
import Numeral.Token.Listing

/-!
# Lines

A line of a session with its tokens and the diagnostics of its invalid characters.
-/

namespace Numeral

/-- A line that has been read into tokens. -/
structure Line where
  source : String
  tokens : List Token
  diagnostics : List Diagnostic
  deriving DecidableEq, Repr

/-- A line was given together with the tokens of another one. -/
inductive Line.Mismatch where
  | otherText
  deriving DecidableEq, Repr

/-- The sentence that reports tokens of another line. -/
def Line.Mismatch.message : Line.Mismatch → String
  | otherText => "Provided lex result must come from the same text"

namespace Line

/-- Reads `source` into tokens. -/
def ofText (source : String) : Line :=
  let (tokens, scanner) := (Scanner.ofText source).drain
  { source := source, tokens := tokens, diagnostics := scanner.diagnostics }

@[simp]
theorem tokens_ofText (source : String) : (ofText source).tokens = tokensOf source :=
  rfl

/-- The line `text`, with the tokens that are `given` if they are its own. -/
def resolve (text : String) (given : Option Line) : Except Mismatch Line :=
  match given with
  | none => .ok (ofText text)
  | some line => if line.source = text then .ok line else .error .otherText

/-- The identifiers of the line. -/
def identifiers (line : Line) : List Token :=
  line.tokens.filter (·.kind = .identifier)

/-- The tokens and the diagnostics of the line, listed. -/
def listed (line : Line) : List String :=
  listTokens line.tokens ++ listDiagnostics line.diagnostics

end Line

end Numeral
