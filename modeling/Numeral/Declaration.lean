import Numeral.Line
import Numeral.Scope

/-!
# Declarations

A declaration is a base keyword, an identifier, a number and a semicolon; what follows is ignored. A
declaration is accepted if its name is new and its number is a numeral of its base.

- `ofTokens?_eq_some_iff`: the tokens that form a declaration.
- `Verdict`: the four ways in which a line is judged.
- `judge_of_none`, `judge_of_mem`, `judge_of_accepts`, `judge_of_not_accepts`: when each arises.
- `judge_of_alone_accepted`, `judge_of_alone_rejected`: how a scope bears on the verdict.
-/

namespace Numeral

/-- The parts of a declaration. -/
structure Declaration where
  base : Base
  name : Token
  value : Token
  deriving DecidableEq, Repr

/-- The result of a declaration in one word. -/
inductive Outcome where
  | accepted
  | rejectedGrammar
  | rejectedNameOrValue
  deriving DecidableEq, Repr

instance : Labelled Outcome where
  vocabulary := "DeclarationOutcome"
  members := [.accepted, .rejectedGrammar, .rejectedNameOrValue]
  label
    | .accepted => "accepted"
    | .rejectedGrammar => "rejected_grammar"
    | .rejectedNameOrValue => "rejected_duplicate_or_invalid_value"

namespace Declaration

/-- The least number of tokens of a line that holds a declaration, the end of the line included. -/
def minTokens : Nat := 5

/-- The declaration that the tokens of a line start with. -/
def ofTokens? : List Token → Option Declaration
  | keyword :: name :: value :: semicolon :: _ :: _ =>
    match keyword.kind with
    | .keyword base =>
      if name.kind = .identifier ∧ value.kind.isNumber ∧ semicolon.kind = .semicolon then
        some ⟨base, name, value⟩
      else none
    | _ => none
  | _ => none

/-- Whether the tokens of a line start with a declaration. -/
def matchesGrammar (tokens : List Token) : Bool :=
  (ofTokens? tokens).isSome

/-- The span from the first to the last of `tokens`; without tokens, the start of the line. -/
def spanOf : List Token → Span
  | [] => .empty 0
  | t :: ts => t.span.cover ((t :: ts).getLast (by simp)).span

/-- How a line of declarations is judged. -/
inductive Verdict where
  | accepted (declaration : Declaration)
  | malformed (span : Span)
  | duplicate (declaration : Declaration)
  | invalidValue (declaration : Declaration)
  deriving DecidableEq, Repr

namespace Verdict

/-- The verdict in one word. -/
def outcome : Verdict → Outcome
  | accepted _ => .accepted
  | malformed _ => .rejectedGrammar
  | duplicate _ | invalidValue _ => .rejectedNameOrValue

/-- The declaration judged, where the line has the form of one. -/
def declaration? : Verdict → Option Declaration
  | accepted d | duplicate d | invalidValue d => some d
  | malformed _ => none

/-- The declared name, where the line has the form of a declaration. -/
def name? (v : Verdict) : Option String :=
  v.declaration?.map (·.name.text)

/-- The declared base, where the line has the form of a declaration. -/
def base? (v : Verdict) : Option Base :=
  v.declaration?.map (·.base)

/-- The declared value, where the line has the form of a declaration. -/
def value? (v : Verdict) : Option String :=
  v.declaration?.map (·.value.text)

/-- The report of a rejection. -/
def diagnostics : Verdict → List Diagnostic
  | accepted _ => []
  | malformed span => [Diagnostic.Code.grammarMismatch.report span]
  | duplicate d =>
    [Diagnostic.Code.duplicate.report d.name.span
      (some ("Variable " ++ d.name.text ++ " was already declared."))]
  | invalidValue d =>
    [Diagnostic.Code.invalidValue.report d.value.span
      (some ("Value '" ++ d.value.text ++ "' is not valid for type " ++ d.base.name ++ "."))]

/-- Whether the declaration is accepted. -/
def isAccepted (v : Verdict) : Bool :=
  v.outcome = .accepted

end Verdict

/-- Judges the tokens of a line, and puts the name into the scope if they are accepted. A taken
name is reported before a wrong value. -/
def judge (tokens : List Token) (scope : Scope) : Verdict × Scope :=
  match ofTokens? tokens with
  | none => (.malformed (spanOf tokens), scope)
  | some d =>
    if h : d.name.text ∈ scope then (.duplicate d, scope)
    else if d.base.accepts d.value.text then
      (.accepted d, scope.insert d.name.text d.base h)
    else (.invalidValue d, scope)

/-- A line judged as a declaration, with all its diagnostics. -/
structure Run where
  line : Line
  verdict : Verdict
  diagnostics : List Diagnostic
  deriving DecidableEq, Repr

/-- Judges a line that is read already. The diagnostics of its characters come first. -/
def runLine (line : Line) (scope : Scope) : Run × Scope :=
  let (verdict, scope) := judge line.tokens scope
  ({ line := line, verdict := verdict,
     diagnostics := line.diagnostics ++ verdict.diagnostics }, scope)

@[simp]
theorem verdict_runLine (line : Line) (scope : Scope) :
    (runLine line scope).1.verdict = (judge line.tokens scope).1 :=
  rfl

/-- Judges the line `text`, with its tokens if they are given. -/
def run (text : String) (scope : Scope) (given : Option Line := none) :
    Except Line.Mismatch (Run × Scope) :=
  (Line.resolve text given).map (runLine · scope)

/-- The verdict on a line that comes without tokens is the verdict on its own. -/
theorem run_eq (text : String) (scope : Scope) :
    run text scope =
      .ok ({ line := .ofText text
             verdict := (judge (tokensOf text) scope).1
             diagnostics :=
               (Line.ofText text).diagnostics ++ (judge (tokensOf text) scope).1.diagnostics },
           (judge (tokensOf text) scope).2) :=
  rfl

/-- The line `text` judged in an empty scope. -/
def alone (text : String) : Verdict :=
  (judge (tokensOf text) .empty).1

section Judge

variable {tokens : List Token} {scope : Scope} {d : Declaration}

theorem judge_of_none (h : ofTokens? tokens = none) :
    judge tokens scope = (.malformed (spanOf tokens), scope) := by
  rw [judge, h]

theorem judge_of_mem (h : ofTokens? tokens = some d) (hmem : d.name.text ∈ scope) :
    judge tokens scope = (.duplicate d, scope) := by
  rw [judge, h]
  exact dif_pos hmem

theorem judge_of_accepts (h : ofTokens? tokens = some d) (hmem : d.name.text ∉ scope)
    (hvalue : d.base.accepts d.value.text = true) :
    judge tokens scope = (.accepted d, scope.insert d.name.text d.base hmem) := by
  rw [judge, h]
  exact (dif_neg hmem).trans (if_pos hvalue)

theorem judge_of_not_accepts (h : ofTokens? tokens = some d) (hmem : d.name.text ∉ scope)
    (hvalue : d.base.accepts d.value.text = false) :
    judge tokens scope = (.invalidValue d, scope) := by
  rw [judge, h]
  exact (dif_neg hmem).trans (if_neg (by simp [hvalue]))

/-- A verdict is about the declaration that the tokens start with, if they do. -/
theorem declaration?_judge (tokens : List Token) (scope : Scope) :
    (judge tokens scope).1.declaration? = ofTokens? tokens := by
  cases h : ofTokens? tokens with
  | none => rw [judge_of_none h, Verdict.declaration?]
  | some d =>
    by_cases hmem : d.name.text ∈ scope
    · rw [judge_of_mem h hmem, Verdict.declaration?]
    · cases hvalue : d.base.accepts d.value.text with
      | true => rw [judge_of_accepts h hmem hvalue, Verdict.declaration?]
      | false => rw [judge_of_not_accepts h hmem hvalue, Verdict.declaration?]

end Judge

/-- A line that is accepted in an empty scope is accepted in every scope without its name. -/
theorem judge_of_alone_accepted {text : String} {d : Declaration} (h : alone text = .accepted d)
    (scope : Scope) :
    judge (tokensOf text) scope =
      if hd : d.name.text ∈ scope then (.duplicate d, scope)
      else (.accepted d, scope.insert d.name.text d.base hd) := by
  unfold alone judge at h
  unfold judge
  split at h
  · cases h
  · rename_i d' _
    simp only [Scope.not_mem_empty, dite_false] at h
    split at h
    · cases h
      simp_all
    · cases h

/-- A line that is rejected in an empty scope has the same outcome in every scope, and changes
none. -/
theorem judge_of_alone_rejected {text : String} (h : ∀ d, alone text ≠ .accepted d)
    (scope : Scope) :
    (judge (tokensOf text) scope).1.outcome = (alone text).outcome ∧
      (judge (tokensOf text) scope).2 = scope := by
  unfold alone at h ⊢
  unfold judge at h ⊢
  cases ho : ofTokens? (tokensOf text) with
  | none => exact ⟨rfl, rfl⟩
  | some d =>
    simp only [ho, Scope.not_mem_empty, dite_false] at h ⊢
    by_cases hv : d.base.accepts d.value.text
    · simp [hv] at h
    · by_cases hd : d.name.text ∈ scope <;> simp [hv, hd, Verdict.outcome]

theorem ofTokens?_eq_some_iff {tokens : List Token} {d : Declaration} :
    ofTokens? tokens = some d ↔
      ∃ keyword semicolon last rest,
        tokens = keyword :: d.name :: d.value :: semicolon :: last :: rest ∧
        keyword.kind = .keyword d.base ∧ d.name.kind = .identifier ∧
        d.value.kind.isNumber = true ∧ semicolon.kind = .semicolon := by
  constructor
  · intro h
    unfold ofTokens? at h
    split at h
    · split at h
      · split at h
        · cases h
          exact ⟨_, _, _, _, rfl, by assumption, by simp_all⟩
        · cases h
      · cases h
    · cases h
  · rintro ⟨keyword, semicolon, last, rest, rfl, hk, hn, hv, hs⟩
    simp [ofTokens?, hk, hn, hv, hs]

end Declaration

end Numeral
