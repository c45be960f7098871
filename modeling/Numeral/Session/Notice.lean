import Numeral.Declaration
import Numeral.Expression
import Numeral.Text.Case

/-!
# Notices

What a session tells its user about the results of its lines.
-/

namespace Numeral.Session

/-- A message cannot be made from an empty one. -/
inductive NoticeError where
  | emptyMessage
  deriving DecidableEq, Repr

/-- The sentence that reports a message that cannot be made. -/
def NoticeError.message : NoticeError → String
  | emptyMessage => "string index out of range"

namespace Notice

/-- Asks for the declarations. -/
def declarationsPrompt (sentinel : String) : String :=
  "Enter variable declarations (example: bin var1 1010;), finish with '" ++ sentinel ++ "'"

/-- Asks for the expression. -/
def expressionPrompt : String := "Enter an expression to analyze:"

/-- Reports a valid expression. -/
def validExpression : String := "Valid expression."

/-- The diagnostics that report a wrong value. -/
def invalidValues (diagnostics : List Diagnostic) : List Diagnostic :=
  diagnostics.filter (·.code = Diagnostic.Code.invalidValue.name)

/-- Reports a declaration. A wrong value is reported with its own message, which goes on in lower
case, before the report that covers wrong values and taken names alike. A name that is absent is
written `None`. -/
def declaration (outcome : Outcome) (name : Option String) (diagnostics : List Diagnostic) :
    List String :=
  let name := name.getD "None"
  match outcome with
  | .accepted => ["Variable " ++ name ++ " declared successfully."]
  | .rejectedGrammar => [Diagnostic.Code.grammarMismatch.message]
  | .rejectedNameOrValue =>
    (invalidValues diagnostics).map (fun d => "Error: " ++ lowerFirst d.message) ++
      ["Error: variable " ++ name ++ " was already declared or has an invalid value."]

/-- Reports a declaration, if every message it takes up has a first character. -/
def declaration? (outcome : Outcome) (name : Option String) (diagnostics : List Diagnostic) :
    Except NoticeError (List String) :=
  if outcome = .rejectedNameOrValue ∧ (invalidValues diagnostics).any (·.message = "") then
    .error .emptyMessage
  else .ok (declaration outcome name diagnostics)

/-- Reports an expression with these undeclared names. -/
def expression (undeclared : List String) : List String :=
  if undeclared.isEmpty then [validExpression]
  else undeclared.map fun name => "Error: variable " ++ name ++ " was not declared."

/-- Reports a diagnostic. -/
def diagnostic (d : Diagnostic) : String :=
  if d.isError then "Error: " ++ d.message else d.message

end Notice

end Numeral.Session

namespace Numeral

/-- The messages about a declaration. -/
def Declaration.Run.messages (r : Declaration.Run) : List String :=
  Session.Notice.declaration r.verdict.outcome r.verdict.name? r.verdict.diagnostics

/-- The messages about an expression. -/
def Expression.Run.messages (r : Expression.Run) : List String :=
  Session.Notice.expression r.verdict.undeclared

end Numeral
