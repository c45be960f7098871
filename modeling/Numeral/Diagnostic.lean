import Numeral.Text.Span

/-!
# Diagnostics

A diagnostic is a message about a span. Those that the library itself makes come from a catalogue
of codes, each with its usual message, a hint and a category.
-/

namespace Numeral

/-- A message about a span of a line. -/
structure Diagnostic where
  code : String
  message : String
  span : Span
  severity : String := "error"
  hint : Option String := none
  category : Option String := none
  deriving DecidableEq, Repr

/-- What a diagnostic can report. -/
inductive Diagnostic.Code where
  | invalidCharacter
  | grammarMismatch
  | invalidValue
  | duplicate
  | undeclaredVariable
  | missingExpression
  deriving DecidableEq, Repr

namespace Diagnostic.Code

/-- The name of the code. -/
def name : Code → String
  | invalidCharacter => "LEXER_INVALID_CHARACTER"
  | grammarMismatch => "DECLARATION_GRAMMAR_MISMATCH"
  | invalidValue => "DECLARATION_INVALID_VALUE"
  | duplicate => "DECLARATION_DUPLICATE"
  | undeclaredVariable => "EXPRESSION_UNDECLARED_VARIABLE"
  | missingExpression => "SESSION_MISSING_EXPRESSION"

/-- The message where nothing more can be said. -/
def message : Code → String
  | invalidCharacter => "Unrecognized character."
  | grammarMismatch => "Error in variable declaration."
  | invalidValue => "Value is not valid for the declared base."
  | duplicate => "Variable was already declared."
  | undeclaredVariable => "Variable was not declared."
  | missingExpression => "Input ended before an expression was supplied."

/-- How to mend what the code reports. -/
def hint : Code → Option String
  | invalidCharacter => none
  | grammarMismatch =>
    some "Declarations look like `bin var1 1010;` (base keyword, name, value, semicolon)."
  | invalidValue => some "bin accepts 0-1, oct accepts 0-7, hex accepts 0-9 and A-F."
  | duplicate => some "Each variable can be declared only once per session."
  | undeclaredVariable => none
  | missingExpression =>
    some "Finish the declarations with the sentinel line and then enter one expression."

/-- The part of the work that finds what the code reports. -/
def category : Code → String
  | invalidCharacter => "lexer"
  | grammarMismatch | invalidValue | duplicate => "declaration"
  | undeclaredVariable => "expression"
  | missingExpression => "session"

/-- Every code. -/
def all : List Code :=
  [invalidCharacter, grammarMismatch, invalidValue, duplicate, undeclaredVariable,
    missingExpression]

/-- The code of that name. -/
def ofName? (name : String) : Option Code :=
  all.find? (·.name = name)

theorem name_injective {a b : Code} (h : a.name = b.name) : a = b := by
  cases a <;> cases b <;> simp_all [name]

/-- The diagnostic of the code at `span`, with a message of its own if there is one. -/
def report (code : Code) (span : Span) (message : Option String := none) : Diagnostic where
  code := code.name
  message := message.getD code.message
  span := span
  hint := code.hint
  category := some code.category

end Diagnostic.Code

namespace Diagnostic

/-- Whether the diagnostic reports an error, and not only something to note. -/
def isError (d : Diagnostic) : Bool :=
  d.severity = "error"

/-- Whether one of `diagnostics` is an error. -/
def hasErrors (diagnostics : List Diagnostic) : Bool :=
  diagnostics.any isError

/-- The diagnostic `distance` characters further right. -/
def shift (distance : Nat) (d : Diagnostic) : Diagnostic :=
  { d with span := d.span.shift distance }

@[simp]
theorem isError_report (code : Code) (span : Span) (message : Option String) :
    (code.report span message).isError = true := by
  simp [isError, Code.report]

end Diagnostic

end Numeral
