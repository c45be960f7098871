import Numeral.Proofs.LineFaults

/-!
# Verdicts on any tokens

Tokens can be judged that no scanner gave: of any kinds, with any texts and spans, in any number.
Every check of the judgement succeeds on them, and three questions settle the verdict, in this
order: whether the tokens have the form of a declaration, whether the name is new, and whether the
base accepts the value. The first one that is answered with no makes the only report.

- `Declaration.IsMalformed`: tokens without the form, said of each place on its own.
- `Declaration.ofTokens?_eq_none_iff`: those are the tokens that hold no declaration.
- `Declaration.ofTokens?_congr`: the first four tokens settle the declaration.
- `Declaration.Verdict.Classifies`: what a verdict says about tokens and a scope.
- `Declaration.judgeChecked_classifies`: the verdict on any tokens in any scope.
-/

namespace Numeral.Declaration

/-! ## The form -/

/-- Whether a token of that kind can stand at place `i` of a declaration. Behind the fourth place
anything can stand. -/
def fits : Nat → Kind → Bool
  | 0, kind => kind.isKeyword
  | 1, kind => kind = .identifier
  | 2, kind => kind.isNumber
  | 3, kind => kind = .semicolon
  | _, _ => true

/-- There are fewer than five tokens, or one of the first four has a wrong kind. -/
def IsMalformed (tokens : List Token) : Prop :=
  tokens.length < 5 ∨ ∃ i t, tokens[i]? = some t ∧ fits i t.kind = false

section Form

variable {tokens others : List Token} {d : Declaration} {scope : Scope}

private theorem exists_misfit_iff (keyword name value semicolon last : Token) (rest : List Token) :
    (∃ i t, (keyword :: name :: value :: semicolon :: last :: rest)[i]? = some t ∧
        fits i t.kind = false) ↔
      matchesGrammar (keyword :: name :: value :: semicolon :: last :: rest) = false := by
  rw [matchesGrammar_cons]
  constructor
  · rintro ⟨i, t, ht, hfits⟩
    match i, ht, hfits with
    | 0, rfl, hfits => simp_all [fits]
    | 1, rfl, hfits => simp_all [fits]
    | 2, rfl, hfits => simp_all [fits]
    | 3, rfl, hfits => simp_all [fits]
  · simp only [Bool.and_eq_false_iff, or_assoc]
    rintro (h | h | h | h)
    · exact ⟨0, keyword, rfl, h⟩
    · exact ⟨1, name, rfl, h⟩
    · exact ⟨2, value, rfl, h⟩
    · exact ⟨3, semicolon, rfl, h⟩

theorem ofTokens?_eq_none_iff : ofTokens? tokens = none ↔ IsMalformed tokens := by
  rw [← Option.isNone_iff_eq_none, ← Option.not_isSome, Bool.not_eq_true', ← matchesGrammar,
    IsMalformed]
  by_cases hlength : tokens.length < 5
  · exact iff_of_true (matchesGrammar_of_length_lt hlength) (.inl hlength)
  · obtain ⟨keyword, name, value, semicolon, last, rest, rfl⟩ :=
      exists_cons_of_minTokens_le (Nat.not_lt.mp hlength)
    rw [or_iff_right hlength, exists_misfit_iff]

/-- Of five tokens or more, the first four settle the declaration. -/
theorem ofTokens?_congr (hlength : 5 ≤ tokens.length) (hlength' : 5 ≤ others.length)
    (h : others.take 4 = tokens.take 4) : ofTokens? others = ofTokens? tokens := by
  obtain ⟨k, n, v, s, last, rest, rfl⟩ := exists_cons_of_minTokens_le hlength
  obtain ⟨k', n', v', s', last', rest', rfl⟩ := exists_cons_of_minTokens_le hlength'
  simp only [List.take_succ_cons, List.take_zero, List.cons.injEq, and_true] at h
  obtain ⟨rfl, rfl, rfl, rfl⟩ := h
  rfl

/-- Where tokens hold a declaration, nothing else of them bears on the judgement. -/
theorem judge_congr (h : ofTokens? tokens = some d) (h' : ofTokens? others = some d) :
    judge others scope = judge tokens scope := by
  rw [judge, judge, h, h']

private theorem exists_name_mem_iff (h : ofTokens? tokens = some d) :
    (∃ t, tokens[1]? = some t ∧ t.text ∈ scope) ↔ d.name.text ∈ scope := by
  obtain ⟨_, _, _, _, rfl, -⟩ := ofTokens?_eq_some_iff.mp h
  simp

end Form

/-! ## The verdict -/

/-- What the verdict `v` says about `tokens` in `scope`. -/
structure Verdict.Classifies (v : Verdict) (tokens : List Token) (scope : Scope) : Prop where
  diagnostics_eq_nil_iff : v.diagnostics = [] ↔ v.outcome = .accepted
  /-- A rejection makes one report: of the form, else of the name, else of the value. -/
  exists_report : v.outcome ≠ .accepted →
    ∃ (code : Diagnostic.Code) (span : Span) (message : Option String),
      v.diagnostics = [code.report span message] ∧
      (code = .grammarMismatch ↔ IsMalformed tokens) ∧
      (¬ IsMalformed tokens →
        (code = .duplicate ↔ ∃ name, tokens[1]? = some name ∧ name.text ∈ scope) ∧
        (code ≠ .duplicate → code = .invalidValue))
  name?_eq_none_iff : v.name? = none ↔ IsMalformed tokens
  base?_eq_none_iff : v.base? = none ↔ IsMalformed tokens
  value?_eq_none_iff : v.value? = none ↔ IsMalformed tokens

private theorem Verdict.diagnostics_eq_nil_iff (v : Verdict) :
    v.diagnostics = [] ↔ v.outcome = .accepted := by
  cases v <;> simp [diagnostics, outcome]

theorem classifies_judge (tokens : List Token) (scope : Scope) :
    (judge tokens scope).1.Classifies tokens scope := by
  have hparts := declaration?_judge tokens scope
  refine ⟨Verdict.diagnostics_eq_nil_iff _, fun hrejected => ?_, ?_, ?_, ?_⟩
  · -- The form is looked at first, then the name, then the value.
    cases h : ofTokens? tokens with
    | none =>
      have hform : IsMalformed tokens := ofTokens?_eq_none_iff.mp h
      rw [judge_of_none h]
      exact ⟨.grammarMismatch, _, _, rfl, iff_of_true rfl hform, fun hnot => absurd hform hnot⟩
    | some d =>
      have hform : ¬ IsMalformed tokens := by simp [← ofTokens?_eq_none_iff, h]
      rw [exists_name_mem_iff h]
      by_cases hmem : d.name.text ∈ scope
      · rw [judge_of_mem h hmem]
        exact ⟨.duplicate, _, _, rfl, iff_of_false (by simp) hform,
          fun _ => ⟨iff_of_true rfl hmem, fun hne => absurd rfl hne⟩⟩
      · cases hvalue : d.base.accepts d.value.text with
        | true =>
          rw [judge_of_accepts h hmem hvalue] at hrejected
          exact absurd rfl hrejected
        | false =>
          rw [judge_of_not_accepts h hmem hvalue]
          exact ⟨.invalidValue, _, _, rfl, iff_of_false (by simp) hform,
            fun _ => ⟨iff_of_false (by simp) hmem, fun _ => rfl⟩⟩
  all_goals
    simp only [Verdict.name?, Verdict.base?, Verdict.value?, hparts, Option.map_eq_none_iff,
      ofTokens?_eq_none_iff]

/-- **Judging any tokens.** No check fails, whatever the tokens and the scope are. There is a report
iff the tokens are rejected, and then there is one: of their form iff they are malformed, else of
the name iff it is taken, else of the value. The verdict has no parts iff the tokens are malformed;
otherwise the first four of them settle the verdict and the scope behind it. -/
theorem judgeChecked_classifies (tokens : List Token) (scope : Scope) :
    ∃ v after, judgeChecked tokens scope = .ok (v, after) ∧ v.Classifies tokens scope ∧
      (¬ IsMalformed tokens → ∀ others : List Token, 5 ≤ others.length →
        others.take 4 = tokens.take 4 → judgeChecked others scope = .ok (v, after)) := by
  refine ⟨(judge tokens scope).1, (judge tokens scope).2, judgeChecked_eq tokens scope,
    classifies_judge tokens scope, fun hform others hlength hfour => ?_⟩
  have hlength' : 5 ≤ tokens.length := Nat.not_lt.mp fun hlt => hform (.inl hlt)
  obtain ⟨d, hd⟩ : ∃ d, ofTokens? tokens = some d :=
    Option.ne_none_iff_exists'.mp (mt ofTokens?_eq_none_iff.mp hform)
  rw [judgeChecked_eq, judge_congr hd ((ofTokens?_congr hlength' hlength hfour).trans hd)]

end Numeral.Declaration
