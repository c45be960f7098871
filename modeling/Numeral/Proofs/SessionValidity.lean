import Numeral.Proofs.FirstWins

/-!
# Valid sessions

A session is valid iff a line stands behind its first sentinel, and each name in that line is
declared before the sentinel by a line that is accepted on its own. Neither the order of the
declarations nor the rejected ones bear on it.

- `Session.HasTaken.feedAll`: a session takes the lines up to the sentinel for declarations.
- `Session.expression_transcript_none`: when a session has no expression.
- `Session.result_transcript`: what is found of the lines up to the sentinel and the line behind it.
- `transcript_isValid_iff`: which sessions are valid.
-/

namespace Numeral

namespace Session

variable {s : Session} {settings : Settings} {lines taken rest : List String} {e : String}

/-! ## Up to the sentinel -/

/-- A session takes the lines up to the sentinel for declarations. -/
theorem HasTaken.feedAll (h : s.HasTaken settings taken) (hlines : settings.sentinel ∉ lines) :
    ∃ s' : Session, s'.HasTaken settings (taken ++ lines) ∧
      ∀ rest, (s.feedAll (lines ++ rest)).1 = (s'.feedAll rest).1 := by
  induction lines generalizing s taken with
  | nil => exact ⟨s, by simpa using h, fun rest => rfl⟩
  | cons line lines ih =>
    rw [List.mem_cons, not_or] at hlines
    obtain ⟨next, messages, hadvance, hnext⟩ := h.advance (Ne.symm hlines.1)
    obtain ⟨s', htaken, hs'⟩ := ih hnext hlines.2
    exact ⟨s', by simpa using htaken, fun rest => (feedAll_of_ok hadvance _).trans (hs' rest)⟩

theorem HasTaken.advance_sentinel (h : s.HasTaken settings taken) :
    s.advance settings.sentinel = .ok (s.endDeclarations.1, s.endDeclarations.2) := by
  rw [advance_of_open h.isOpen, h.settings_eq, if_pos rfl]

/-! ## From the sentinel on -/

/-- The line behind the sentinel is the expression, and the session takes no more. -/
theorem feedAll_sentinel (h : s.HasTaken settings taken) (e : String) (rest : List String) :
    (s.feedAll (settings.sentinel :: e :: rest)).1 = (s.endDeclarations.1.takeExpression e).1 := by
  rw [feedAll_of_ok h.advance_sentinel]
  have hadvance : s.endDeclarations.1.advance e =
      .ok ((s.endDeclarations.1.takeExpression e).1, (s.endDeclarations.1.takeExpression e).2) :=
    advance_of_expression rfl e
  rw [feedAll_of_ok hadvance, feedAll_of_done rfl]

private theorem expression_feedAll_end (h : s.HasTaken settings taken) :
    (s.feedAll [settings.sentinel]).1.expression = none := by
  rw [feedAll_of_ok h.advance_sentinel]
  exact h.expression_eq

/-! ## Whole sessions -/

theorem exists_hasTaken_transcript (hlines : settings.sentinel ∉ lines) :
    ∃ s : Session, s.HasTaken settings lines ∧
      ∀ rest, (transcript settings (lines ++ rest)).result =
        (s.feedAll rest).1.finish.1.result := by
  obtain ⟨s, hs, hrest⟩ := (hasTaken_ofSettings settings).start.feedAll hlines
  refine ⟨s, hs, fun rest => ?_⟩
  rw [← hrest]
  rfl

/-- A session without a line behind a sentinel has no expression. -/
theorem expression_transcript_none (hlines : settings.sentinel ∉ lines) :
    (transcript settings lines).result.expression = none ∧
      (transcript settings (lines ++ [settings.sentinel])).result.expression = none := by
  obtain ⟨s, hs, hrest⟩ := exists_hasTaken_transcript hlines
  constructor
  · rw [← List.append_nil lines, hrest]
    exact (expression_finish _).trans hs.expression_eq
  · rw [hrest]
    exact (expression_finish _).trans (expression_feedAll_end hs)

/-- What a session finds that takes some lines, the sentinel and an expression: the lines judged as
declarations, and the expression checked in the scope behind them. -/
theorem result_transcript (hlines : settings.sentinel ∉ lines) (e : String) (rest : List String) :
    (transcript settings (lines ++ settings.sentinel :: e :: rest)).result.scope =
        scopeAfter .empty lines ∧
      (transcript settings (lines ++ settings.sentinel :: e :: rest)).result.declarations =
        runsOf lines ∧
      (transcript settings (lines ++ settings.sentinel :: e :: rest)).result.expression =
        some (Expression.runLine (.ofText e) (scopeAfter .empty lines) settings.mode) := by
  obtain ⟨s, hs, hrest⟩ := exists_hasTaken_transcript hlines
  rw [hrest, feedAll_sentinel hs, finish_of_done rfl, ← hs.scope_eq, ← hs.declarations_eq,
    ← hs.settings_eq]
  exact ⟨rfl, rfl, rfl⟩

/-- The line behind the first sentinel is the expression. It is checked in the scope that the lines
up to the sentinel give. -/
theorem expression_transcript (hlines : settings.sentinel ∉ lines) :
    (transcript settings (lines ++ settings.sentinel :: e :: rest)).result.expression =
      some (Expression.runLine (.ofText e) (scopeAfter .empty lines) settings.mode) :=
  (result_transcript hlines e rest).2.2

theorem isValid_transcript (hlines : settings.sentinel ∉ lines) :
    (transcript settings (lines ++ settings.sentinel :: e :: rest)).result.isValid = true ↔
      ∀ t ∈ tokensOf e, t.kind = .identifier →
        ∃ line ∈ lines, ∃ b, declaredAlone line = some (t.text, b) := by
  rw [Result.isValid, expression_transcript hlines, Option.any_some,
    Expression.isValid_runLine_iff, Line.tokens_ofText]
  simp [mem_scopeAfter_iff]

end Session

/-- **Valid sessions.** A session is valid iff the sentinel is among its lines, a line stands behind
the first one, and every identifier of that line is declared by a line before the sentinel that is
accepted on its own. -/
theorem transcript_isValid_iff (settings : Session.Settings) (lines : List String) :
    (Session.transcript settings lines).result.isValid = true ↔
      ∃ before e rest, lines = before ++ settings.sentinel :: e :: rest ∧
        settings.sentinel ∉ before ∧
        ∀ t ∈ tokensOf e, t.kind = .identifier →
          ∃ line ∈ before, ∃ b, declaredAlone line = some (t.text, b) := by
  constructor
  · intro h
    by_cases hmem : settings.sentinel ∈ lines
    · obtain ⟨before, behind, rfl, hbefore⟩ := List.eq_append_cons_of_mem hmem
      cases behind with
      | nil =>
        rw [Session.Result.isValid, (Session.expression_transcript_none hbefore).2] at h
        cases h
      | cons e rest =>
        exact ⟨before, e, rest, rfl, hbefore, (Session.isValid_transcript hbefore).mp h⟩
    · rw [Session.Result.isValid, (Session.expression_transcript_none hmem).1] at h
      cases h
  · rintro ⟨before, e, rest, rfl, hbefore, hnames⟩
    exact (Session.isValid_transcript hbefore).mpr hnames

end Numeral
