import Numeral.Proofs.LineDiagnostics
import Numeral.Proofs.SessionResult

/-!
# Sessions without errors

A session has errors iff one of its diagnostics is an error, and it is valid iff its expression is.
The two are not the same: whatever is wrong with a line is an error, but only what is wrong with the
names of the expression bears on validity.

- `Declaration.hasErrors_runLine`, `Expression.hasErrors_runLine`: when a line has errors.
- `Session.hasErrors_findings`: when a session has none.
- `Session.Flaw`: what a valid session can have errors for.
- `error_free_sessions`: what it means that a session has no errors.
-/

namespace Numeral

/-! ## The errors of a line -/

namespace Diagnostic

variable {ds es : List Diagnostic}

theorem hasErrors_append :
    hasErrors (ds ++ es) = false ↔ hasErrors ds = false ∧ hasErrors es = false := by
  rw [hasErrors, List.any_append, Bool.or_eq_false_iff, hasErrors, hasErrors]

theorem hasErrors_flatMap {α : Type} {f : α → List Diagnostic} {l : List α} :
    hasErrors (l.flatMap f) = false ↔ ∀ a ∈ l, hasErrors (f a) = false := by
  rw [hasErrors, List.any_flatMap, List.any_eq_false]
  exact forall₂_congr fun a _ => Bool.not_eq_true _ ▸ Iff.rfl

end Diagnostic

open Diagnostic (hasErrors)

/-- Every invalid token is an error, and nothing else that a scanner finds. -/
theorem hasErrors_complaints {tokens : List Token} :
    hasErrors (complaints tokens) = false ↔ ∀ t ∈ tokens, t.kind ≠ .invalid := by
  simp [hasErrors, complaints, Token.complaint]

namespace Declaration

variable {text : String} {scope : Scope} {tokens : List Token} {t : Token}

theorem Verdict.hasErrors_diagnostics (v : Verdict) :
    hasErrors v.diagnostics = false ↔ v.outcome = .accepted := by
  cases v <;> simp [hasErrors, diagnostics, outcome]

theorem hasErrors_runLine :
    hasErrors (runLine (.ofText text) scope).1.diagnostics = false ↔
      (runLine (.ofText text) scope).1.verdict.outcome = .accepted ∧
        ∀ t ∈ (runLine (.ofText text) scope).1.line.tokens, t.kind ≠ .invalid := by
  rw [diagnostics_runLine, Diagnostic.hasErrors_append, hasErrors_complaints,
    Verdict.hasErrors_diagnostics, and_comm, verdict_runLine, Line.tokens_ofText]
  rfl

/-- The first four tokens of an accepted line are valid, and the fourth is the semicolon. -/
theorem semicolon_of_accepted (h : (judge tokens scope).1.outcome = .accepted) :
    tokens[3]?.map (·.kind) = some .semicolon ∧
      ∀ t ∈ tokens, t.kind = .invalid → t ∈ tokens.drop 4 := by
  obtain ⟨d, hd⟩ : ∃ d, ofTokens? tokens = some d := by
    rw [← declaration?_judge tokens scope]
    cases hv : (judge tokens scope).1 with
    | malformed span => rw [hv] at h; cases h
    | accepted d | duplicate d | invalidValue d => exact ⟨d, rfl⟩
  obtain ⟨keyword, semicolon, last, rest, rfl, hkeyword, hname, hvalue, hsemicolon⟩ :=
    ofTokens?_eq_some_iff.mp hd
  refine ⟨congrArg some hsemicolon, fun t ht hinvalid => ?_⟩
  simp only [List.mem_cons, List.drop_succ_cons, List.drop_zero] at ht ⊢
  rcases ht with rfl | rfl | rfl | rfl | ht
  · cases hkeyword.symm.trans hinvalid
  · cases hname.symm.trans hinvalid
  · rw [hinvalid] at hvalue
    cases hvalue
  · cases hsemicolon.symm.trans hinvalid
  · exact ht

end Declaration

namespace Expression

variable {text : String} {scope : Scope} {mode : Mode}

theorem hasErrors_check (tokens : List Token) :
    hasErrors (check tokens scope mode).diagnostics = false ↔
      (check tokens scope mode).isValid = true := by
  unfold check Verdict.isValid
  cases undeclared scope mode tokens <;> simp [hasErrors, report]

theorem hasErrors_runLine :
    hasErrors (runLine (.ofText text) scope mode).diagnostics = false ↔
      (runLine (.ofText text) scope mode).isValid = true ∧
        ∀ t ∈ (runLine (.ofText text) scope mode).line.tokens, t.kind ≠ .invalid := by
  rw [diagnostics_runLine, Diagnostic.hasErrors_append, hasErrors_complaints, hasErrors_check,
    and_comm]
  rfl

end Expression

/-! ## The errors of some declarations -/

/-- The tokens of some declarations are those of their lines. -/
theorem forall_tokens_runsOf {lines : List String} {p : Token → Prop} :
    (∀ run ∈ runsOf lines, ∀ t ∈ run.line.tokens, p t) ↔
      ∀ line ∈ lines, ∀ t ∈ tokensOf line, p t :=
  calc
    (∀ run ∈ runsOf lines, ∀ t ∈ run.line.tokens, p t) ↔
        ∀ l ∈ (runsOf lines).map (·.line), ∀ t ∈ l.tokens, p t := by rw [List.forall_mem_map]
    _ ↔ ∀ l ∈ lines.map Line.ofText, ∀ t ∈ l.tokens, p t := by rw [map_line_runsOf]
    _ ↔ ∀ line ∈ lines, ∀ t ∈ tokensOf line, p t := by
      rw [List.forall_mem_map]
      rfl

namespace Session

variable {settings : Settings} {lines : List String}

/-! ## The errors of a session -/

/-- A missing expression is an error. -/
theorem hasErrors_lastDiagnostics {expression : Option Expression.Run} :
    hasErrors (lastDiagnostics expression) = false ↔
      ∃ run, expression = some run ∧ hasErrors run.diagnostics = false := by
  cases expression with
  | none => simp [lastDiagnostics, hasErrors, missingExpression]
  | some run => simp [lastDiagnostics]

/-- **Sessions without errors.** Every declaration is accepted, there is an expression and it is
valid, and no token of them is invalid. -/
theorem hasErrors_findings :
    (settings.findings lines).hasErrors = false ↔
      (∀ run ∈ (settings.findings lines).declarations,
        run.verdict.outcome = .accepted ∧ ∀ t ∈ run.line.tokens, t.kind ≠ .invalid) ∧
      ∃ run, (settings.findings lines).expression = some run ∧
        run.isValid = true ∧ ∀ t ∈ run.line.tokens, t.kind ≠ .invalid := by
  unfold Result.hasErrors Settings.findings Settings.expressionRun?
  rw [Diagnostic.hasErrors_append, Diagnostic.hasErrors_flatMap, hasErrors_lastDiagnostics]
  refine and_congr (forall₂_congr fun run hrun => ?_) (exists_congr fun run => ?_)
  · obtain ⟨line, -, scope, rfl⟩ := exists_of_mem_runsOf hrun
    exact Declaration.hasErrors_runLine
  · refine and_congr_right fun hexpression => ?_
    obtain ⟨e, -, rfl⟩ := Option.map_eq_some_iff.mp hexpression
    exact Expression.hasErrors_runLine

/-- The same, said of the lines. -/
theorem hasErrors_findings_iff_exists :
    (settings.findings lines).hasErrors = false ↔
      ∃ before e rest, lines = before ++ settings.sentinel :: e :: rest ∧
        settings.sentinel ∉ before ∧
        (∃ run, (settings.findings lines).expression = some run ∧ run.line = .ofText e ∧
          run.isValid = true) ∧
        (settings.findings lines).declarations.map (·.line) = before.map .ofText ∧
        (∀ run ∈ (settings.findings lines).declarations, run.verdict.outcome = .accepted) ∧
        ∀ line ∈ before ++ [e], ∀ t ∈ tokensOf line, t.kind ≠ .invalid := by
  rw [hasErrors_findings, forall₂_and]
  constructor
  · rintro ⟨⟨haccepted, hclean⟩, run, hrun, hvalid, hexpression⟩
    obtain ⟨e, he, hline⟩ := Option.map_eq_some_iff.mp hrun
    obtain ⟨before, rest, rfl, hbefore⟩ := Settings.expressionLine?_eq_some_iff.mp he
    subst hline
    rw [declarations_findings_append hbefore] at haccepted hclean ⊢
    refine ⟨before, e, rest, rfl, hbefore, ⟨_, hrun, rfl, hvalid⟩, map_line_runsOf before,
      haccepted, fun line hmem => ?_⟩
    rcases List.mem_append.mp hmem with hmem | hmem
    · exact forall_tokens_runsOf.mp hclean line hmem
    · rw [List.mem_singleton.mp hmem]
      exact hexpression
  · rintro ⟨before, e, rest, rfl, hbefore, ⟨run, hrun, hline, hvalid⟩, -, haccepted, hclean⟩
    rw [declarations_findings_append hbefore] at haccepted ⊢
    refine ⟨⟨haccepted, forall_tokens_runsOf.mpr fun line hmem => ?_⟩, run, hrun, hvalid, ?_⟩
    · exact hclean line (List.mem_append_left _ hmem)
    · rw [hline]
      exact hclean e (List.mem_append_right _ (List.mem_singleton_self e))

/-! ## Valid sessions with errors -/

/-- What a valid session can have errors for: a declaration that is rejected, an invalid token
behind the semicolon of one that is accepted, or an invalid token in the expression. -/
inductive Flaw where
  | rejected
  | invalidRest
  | invalidExpression
  deriving DecidableEq, Repr

/-- The result shows the flaw. -/
def Result.Has (r : Result) : Flaw → Prop
  | .rejected => ∃ run ∈ r.declarations, run.verdict.outcome ≠ .accepted
  | .invalidRest =>
    ∃ run ∈ r.declarations, run.verdict.outcome = .accepted ∧
      run.line.tokens[3]?.map (·.kind) = some .semicolon ∧
      ∃ t ∈ run.line.tokens.drop 4, t.kind = .invalid
  | .invalidExpression => ∃ run ∈ r.expression, ∃ t ∈ run.line.tokens, t.kind = .invalid

instance (r : Result) : DecidablePred r.Has
  | .rejected => inferInstanceAs (Decidable (∃ run ∈ _, _))
  | .invalidRest => inferInstanceAs (Decidable (∃ run ∈ _, _ ∧ _ ∧ ∃ t ∈ _, _))
  | .invalidExpression => inferInstanceAs (Decidable (∃ run ∈ _, ∃ t ∈ _, _))

/-- The invalid tokens of an accepted declaration stand behind its semicolon. -/
theorem has_invalidRest {run : Declaration.Run} {t : Token}
    (hrun : run ∈ (settings.findings lines).declarations)
    (haccepted : run.verdict.outcome = .accepted) (ht : t ∈ run.line.tokens)
    (hinvalid : t.kind = .invalid) : (settings.findings lines).Has .invalidRest := by
  refine ⟨run, hrun, haccepted, ?_⟩
  obtain ⟨line, -, scope, rfl⟩ := exists_of_mem_runsOf hrun
  rw [Declaration.verdict_runLine] at haccepted
  obtain ⟨hsemicolon, hrest⟩ := Declaration.semicolon_of_accepted haccepted
  exact ⟨hsemicolon, t, hrest t ht hinvalid, hinvalid⟩

/-- A valid session has errors iff it has one of the flaws. -/
theorem hasErrors_findings_of_isValid (hvalid : (settings.findings lines).isValid = true) :
    (settings.findings lines).hasErrors = true ↔ ∃ flaw, (settings.findings lines).Has flaw := by
  constructor
  · intro herrors
    by_contra hnone
    rw [not_exists] at hnone
    -- Without a flaw there is nothing that could be an error.
    refine Bool.false_ne_true ((hasErrors_findings.mpr ⟨fun run hrun => ?_, ?_⟩).symm.trans herrors)
    · have haccepted : run.verdict.outcome = .accepted :=
        not_not.mp fun hne => hnone .rejected ⟨run, hrun, hne⟩
      exact ⟨haccepted, fun t ht hinvalid =>
        hnone .invalidRest (has_invalidRest hrun haccepted ht hinvalid)⟩
    · obtain ⟨run, hrun, hisValid⟩ := (Option.any_eq_true _ _).mp hvalid
      exact ⟨run, hrun, hisValid, fun t ht hinvalid =>
        hnone .invalidExpression ⟨run, hrun, t, ht, hinvalid⟩⟩
  · rintro ⟨flaw, hflaw⟩
    by_contra hnone
    obtain ⟨hdeclarations, run, hrun, -, hclean⟩ :=
      hasErrors_findings.mp (Bool.eq_false_iff.mpr hnone)
    cases flaw with
    | rejected =>
      obtain ⟨run, hrun, hne⟩ := hflaw
      exact hne (hdeclarations run hrun).1
    | invalidRest =>
      obtain ⟨run, hrun, -, -, t, ht, hinvalid⟩ := hflaw
      exact (hdeclarations run hrun).2 t (List.mem_of_mem_drop ht) hinvalid
    | invalidExpression =>
      obtain ⟨run', hrun', t, ht, hinvalid⟩ := hflaw
      cases hrun.symm.trans hrun'
      exact hclean t ht hinvalid

end Session

/-- **Sessions without errors.** A session has no errors iff a line stands behind its first sentinel
and is valid as an expression, the lines before the sentinel are all accepted as declarations, and
no token of these lines is invalid. So it is valid then. A valid session has errors iff a
declaration is rejected, an invalid token stands behind the semicolon of an accepted one, or an
invalid token stands in the expression, and for each of these there is a valid session with nothing
else wrong. -/
theorem error_free_sessions :
    (∀ (settings : Session.Settings) (lines : List String),
      let r := (Session.transcript settings lines).result
      (r.hasErrors = false ↔
        ∃ before e rest, lines = before ++ settings.sentinel :: e :: rest ∧
          settings.sentinel ∉ before ∧
          (∃ run, r.expression = some run ∧ run.line = .ofText e ∧ run.isValid = true) ∧
          r.declarations.map (·.line) = before.map .ofText ∧
          (∀ run ∈ r.declarations, run.verdict.outcome = .accepted) ∧
          ∀ line ∈ before ++ [e], ∀ t ∈ tokensOf line, t.kind ≠ .invalid) ∧
        (r.hasErrors = false → r.isValid = true) ∧
        (r.isValid = true → (r.hasErrors = true ↔ ∃ flaw, r.Has flaw))) ∧
    ∀ flaw, ∃ lines, let r := (Session.transcript {} lines).result
      r.isValid = true ∧ r.hasErrors = true ∧ ∀ other, r.Has other ↔ other = flaw := by
  refine ⟨fun settings lines => ?_, fun flaw => ?_⟩
  · intro r
    have hr : r = settings.findings lines := Session.result_transcript_eq settings lines
    rw [hr]
    refine ⟨Session.hasErrors_findings_iff_exists, fun hnone => ?_,
      Session.hasErrors_findings_of_isValid⟩
    obtain ⟨-, run, hrun, hvalid, -⟩ := Session.hasErrors_findings.mp hnone
    exact (Option.any_eq_true _ _).mpr ⟨run, hrun, hvalid⟩
  · cases flaw with
    | rejected =>
      refine ⟨["bin x 1;", "bin x 0;", "END", "x"], by decide +kernel, by decide +kernel, ?_⟩
      rintro ⟨⟩ <;> decide +kernel
    | invalidRest =>
      refine ⟨["bin x 1; ?", "END", "x"], by decide +kernel, by decide +kernel, ?_⟩
      rintro ⟨⟩ <;> decide +kernel
    | invalidExpression =>
      refine ⟨["bin x 1;", "END", "x ?"], by decide +kernel, by decide +kernel, ?_⟩
      rintro ⟨⟩ <;> decide +kernel

/-- One session without errors, and a valid one with a stray character behind a semicolon. -/
theorem error_free_sessions_stray_character :
    let clean := (Session.transcript {} ["hex y 1F;", "END", "y + 2"]).result
    let stray := (Session.transcript {} ["hex y 1F; $", "END", "y + 2"]).result
    (clean.hasErrors = false ∧ clean.isValid = true) ∧
      stray.isValid = true ∧ stray.hasErrors = true := by
  intro clean stray
  have hclean : clean.hasErrors = false := by decide +kernel
  have hvalid : stray.isValid = true := by decide +kernel
  obtain ⟨-, hmeans, -⟩ := error_free_sessions.1 {} ["hex y 1F;", "END", "y + 2"]
  obtain ⟨-, -, hflaws⟩ := error_free_sessions.1 {} ["hex y 1F; $", "END", "y + 2"]
  exact ⟨⟨hclean, hmeans hclean⟩, hvalid, (hflaws hvalid).mpr ⟨.invalidRest, by decide +kernel⟩⟩

end Numeral
