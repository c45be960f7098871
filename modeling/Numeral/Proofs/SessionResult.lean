import Numeral.Proofs.SessionCalls
import Numeral.Proofs.SessionValidity

/-!
# What a session finds

The result of a session, said of its lines. Those before the first sentinel are judged as
declarations, one after the other. The line behind it, if there is one, is checked as the
expression, in the scope that the declarations leave. The diagnostics are those of the declarations
and of the expression, or the report that there is none.

- `Session.Settings.linesBefore`, `Session.Settings.expressionLine?`: the lines that are looked at.
- `Session.declarationLines_feed`: these are the lines that a caller feeds before the sentinel.
- `Session.Settings.findings`: what there is to find in some lines.
- `Session.result_transcript_eq`: a session finds that.
-/

namespace Numeral.Session

variable {settings : Settings} {lines before rest : List String}

/-! ## The lines that are looked at -/

/-- The lines before the first sentinel. -/
def Settings.linesBefore (settings : Settings) (lines : List String) : List String :=
  lines.takeWhile (· ≠ settings.sentinel)

/-- The line behind the first sentinel. -/
def Settings.expressionLine? (settings : Settings) (lines : List String) : Option String :=
  lines[lines.idxOf settings.sentinel + 1]?

theorem Settings.linesBefore_append (h : settings.sentinel ∉ before) (rest : List String) :
    settings.linesBefore (before ++ settings.sentinel :: rest) = before := by
  have hall : ∀ line ∈ before, decide (line ≠ settings.sentinel) = true := fun line hline =>
    decide_eq_true fun he => h (he ▸ hline)
  rw [linesBefore, List.takeWhile_append_of_pos hall, List.takeWhile_cons_of_neg (by simp),
    List.append_nil]

private theorem Settings.expressionLine?_of_not_mem (h : settings.sentinel ∉ lines) :
    settings.expressionLine? lines = none := by
  rw [expressionLine?, List.idxOf_eq_length h]
  exact List.getElem?_eq_none (Nat.le_succ _)

theorem Settings.expressionLine?_append (h : settings.sentinel ∉ before) (rest : List String) :
    settings.expressionLine? (before ++ settings.sentinel :: rest) = rest.head? := by
  have hone : before.length + 1 - before.length = 1 := Nat.add_sub_cancel_left _ _
  rw [expressionLine?, List.idxOf_append_of_notMem h, List.idxOf_cons_self, Nat.add_zero,
    List.getElem?_append_right (Nat.le_add_right _ 1), hone, List.getElem?_cons_succ,
    List.head?_eq_getElem?]

/-- There is an expression iff a line stands behind a sentinel. -/
theorem Settings.expressionLine?_eq_some_iff {e : String} :
    settings.expressionLine? lines = some e ↔
      ∃ before rest, lines = before ++ settings.sentinel :: e :: rest ∧
        settings.sentinel ∉ before := by
  constructor
  · intro h
    by_cases hmem : settings.sentinel ∈ lines
    · obtain ⟨before, behind, rfl, hbefore⟩ := List.eq_append_cons_of_mem hmem
      rw [expressionLine?_append hbefore, List.head?_eq_some_iff] at h
      obtain ⟨rest, rfl⟩ := h
      exact ⟨before, rest, rfl, hbefore⟩
    · rw [expressionLine?_of_not_mem hmem] at h
      cases h
  · rintro ⟨before, rest, rfl, hbefore⟩
    rw [expressionLine?_append hbefore, List.head?_cons]

private theorem Settings.linesBefore_cons_of_ne {line : String} (h : line ≠ settings.sentinel)
    (lines : List String) :
    settings.linesBefore (line :: lines) = line :: settings.linesBefore lines :=
  List.takeWhile_cons_of_pos (decide_eq_true h)

/-- A caller that feeds the lines one by one feeds those before the first sentinel as
declarations. -/
theorem declarationLines_feed (settings : Settings) (lines : List String) :
    declarationLines settings.sentinel (lines.map .feed ++ [.finish]) =
      settings.linesBefore lines := by
  induction lines with
  | nil => rfl
  | cons line lines ih =>
    by_cases hline : line = settings.sentinel
    · simp [declarationLines, Settings.linesBefore, Call.keepsOpen, hline]
    · have hkeeps : Call.keepsOpen settings.sentinel (.feed line) = true := decide_eq_true hline
      have hline? : Call.line? (.feed line) = some line := rfl
      rw [declarationLines] at ih
      rw [declarationLines, List.map_cons, List.cons_append, List.takeWhile_cons_of_pos hkeeps,
        List.filterMap_cons_some hline?, ih, Settings.linesBefore_cons_of_ne hline]

/-! ## What there is to find -/

/-- The diagnostics of the expression, or the report that it is missing. -/
def lastDiagnostics : Option Expression.Run → List Diagnostic
  | some run => run.diagnostics
  | none => [missingExpression]

/-- The check of the expression, in the scope that the lines before the sentinel leave. -/
def Settings.expressionRun? (settings : Settings) (lines : List String) : Option Expression.Run :=
  (settings.expressionLine? lines).map fun e =>
    Expression.runLine (.ofText e) (scopeAfter .empty (settings.linesBefore lines)) settings.mode

/-- What there is to find in `lines`. -/
def Settings.findings (settings : Settings) (lines : List String) : Result where
  scope := scopeAfter .empty (settings.linesBefore lines)
  declarations := runsOf (settings.linesBefore lines)
  expression := settings.expressionRun? lines
  diagnostics := (runsOf (settings.linesBefore lines)).flatMap (·.diagnostics) ++
    lastDiagnostics (settings.expressionRun? lines)

theorem declarations_findings_append (h : settings.sentinel ∉ before) (rest : List String) :
    (settings.findings (before ++ settings.sentinel :: rest)).declarations = runsOf before :=
  congrArg runsOf (Settings.linesBefore_append h rest)

theorem expression_transcript_eq (settings : Settings) (lines : List String) :
    (transcript settings lines).result.expression = settings.expressionRun? lines := by
  by_cases hmem : settings.sentinel ∈ lines
  · obtain ⟨before, behind, rfl, hbefore⟩ := List.eq_append_cons_of_mem hmem
    rw [Settings.expressionRun?, Settings.expressionLine?_append hbefore,
      Settings.linesBefore_append hbefore]
    cases behind with
    | nil => exact (expression_transcript_none hbefore).2
    | cons e rest => exact expression_transcript hbefore
  · rw [Settings.expressionRun?, Settings.expressionLine?_of_not_mem hmem]
    exact (expression_transcript_none hmem).1

/-- **What a session finds.** The lines before the first sentinel are judged as declarations, the
line behind it is checked as the expression, and nothing is reported but what comes of these, or
that there is no expression. -/
theorem result_transcript_eq (settings : Settings) (lines : List String) :
    (transcript settings lines).result = settings.findings lines := by
  have hfinish : Call.finish ∉ lines.map Call.feed := by simp
  have hlines : (lines.map Call.feed).filterMap Call.line? = lines := by
    rw [List.filterMap_map]
    exact List.filterMap_some
  obtain ⟨hdone, hresult, -⟩ := afterCalls_first_finish settings hfinish
  have hrecords := records_afterCalls settings (lines.map .feed ++ [.finish])
  have hexpression := expression_transcript_eq settings lines
  rw [hlines] at hresult
  rw [← hresult] at hexpression ⊢
  have hscope := hrecords.scope_eq
  have hdeclarations := hrecords.declarations_eq
  have hdiagnostics := hrecords.diagnostics_eq
  rw [declarationLines_feed] at hscope hdeclarations
  change (afterCalls settings (lines.map .feed ++ [.finish])).1.expression = _ at hexpression
  rw [result, Settings.findings, hscope, hdiagnostics, hdeclarations, hexpression, hdone]
  cases settings.expressionRun? lines <;> simp [lastDiagnostics]

end Numeral.Session
