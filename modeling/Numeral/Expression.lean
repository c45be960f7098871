import Numeral.Line
import Numeral.Scope

/-!
# Expressions

An expression is valid if every identifier in it is declared. Nothing else of it is checked. The
check stops at the first undeclared name or goes on to report them all.

- `undeclared_all`: all mode finds the identifiers outside the scope.
- `undeclared_first`: first mode finds the first of them.
- `isValid_runLine_iff`: a line is valid iff every identifier in it is declared.
-/

namespace Numeral.Expression

/-- How far a check goes on behind an undeclared name. -/
inductive Mode where
  | first
  | all
  deriving DecidableEq, Repr

instance : Labelled Mode where
  vocabulary := "ExpressionCheckMode"
  members := [.first, .all]
  label
    | .first => "first"
    | .all => "all"

/-- Whether the token is a name that the scope does not hold. -/
def isUndeclared (scope : Scope) (t : Token) : Bool :=
  t.kind = .identifier && t.text ∉ scope

/-- The tokens that a check reports. -/
def undeclared (scope : Scope) (mode : Mode) : List Token → List Token
  | [] => []
  | t :: ts =>
    if isUndeclared scope t then
      match mode with
      | .first => [t]
      | .all => t :: undeclared scope mode ts
    else undeclared scope mode ts

/-- The report of an undeclared name. -/
def report (t : Token) : Diagnostic :=
  Diagnostic.Code.undeclaredVariable.report t.span
    (some ("Variable " ++ t.text ++ " was not declared."))

/-- The undeclared names that a check reports, and their diagnostics. -/
structure Verdict where
  undeclared : List String
  diagnostics : List Diagnostic
  deriving DecidableEq, Repr

/-- Whether a check reports no name. -/
def Verdict.isValid (v : Verdict) : Bool :=
  v.undeclared.isEmpty

/-- Checks the names among `tokens`. -/
def check (tokens : List Token) (scope : Scope) (mode : Mode := .first) : Verdict :=
  let found := undeclared scope mode tokens
  { undeclared := found.map (·.text), diagnostics := found.map report }

/-- A line checked as an expression, with all its diagnostics. -/
structure Run where
  line : Line
  verdict : Verdict
  diagnostics : List Diagnostic
  deriving DecidableEq, Repr

/-- Whether the expression of the line is valid. Invalid characters do not count. -/
def Run.isValid (r : Run) : Bool :=
  r.verdict.isValid

/-- Checks a line that is read already. The diagnostics of its characters come first. -/
def runLine (line : Line) (scope : Scope) (mode : Mode := .first) : Run :=
  let verdict := check line.tokens scope mode
  { line := line, verdict := verdict, diagnostics := line.diagnostics ++ verdict.diagnostics }

/-- Checks the line `text`, with its tokens if they are given. -/
def run (text : String) (scope : Scope) (mode : Mode := .first) (given : Option Line := none) :
    Except Line.Mismatch Run :=
  (Line.resolve text given).map (runLine · scope mode)

theorem undeclared_all (scope : Scope) (tokens : List Token) :
    undeclared scope .all tokens = tokens.filter (isUndeclared scope) := by
  induction tokens with
  | nil => rfl
  | cons t ts ih =>
    by_cases h : isUndeclared scope t <;> simp [undeclared, h, ih]

theorem undeclared_first (scope : Scope) (tokens : List Token) :
    undeclared scope .first tokens = (undeclared scope .all tokens).take 1 := by
  induction tokens with
  | nil => rfl
  | cons t ts ih =>
    by_cases h : isUndeclared scope t <;> simp [undeclared, h, ih]

/-- In every mode a check reports nothing iff the scope holds every name. -/
theorem undeclared_eq_nil_iff {scope : Scope} {mode : Mode} {tokens : List Token} :
    undeclared scope mode tokens = [] ↔
      ∀ t ∈ tokens, t.kind = .identifier → t.text ∈ scope := by
  have hall : undeclared scope .all tokens = [] ↔
      ∀ t ∈ tokens, t.kind = .identifier → t.text ∈ scope := by
    simp [undeclared_all, List.filter_eq_nil_iff, isUndeclared]
  cases mode with
  | first => rw [undeclared_first, List.take_eq_nil_iff, or_iff_right Nat.one_ne_zero, hall]
  | all => exact hall

theorem isValid_runLine_iff {line : Line} {scope : Scope} {mode : Mode} :
    (runLine line scope mode).isValid = true ↔
      ∀ t ∈ line.tokens, t.kind = .identifier → t.text ∈ scope := by
  simp only [Run.isValid, runLine, Verdict.isValid, check, List.isEmpty_iff, List.map_eq_nil_iff,
    undeclared_eq_nil_iff]

end Numeral.Expression
