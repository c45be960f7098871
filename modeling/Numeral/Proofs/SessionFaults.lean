import Numeral.Proofs.LineFaults
import Numeral.Proofs.SessionCalls

/-!
# Sessions without faults

A caller holds on to one session whose parts the calls overwrite one after the other. Here these
parts are cells, and the calls are programs that write them. A program that stops on a fault leaves
the cells as it has written them up to there. Every check that a call makes on its way is one of
its steps.

- `Cells`, `Cells.Act`, `Cells.act`: the cells, and the programs of the calls.
- `Cells.run_act`: a program does to the cells what its call does to the session. It stops only
  where the call is refused, and has written nothing then.
- `Cells.cellsAfter_eq`: the same behind any calls.
- `Cells.isOpened_of_stage_ne`: cells past the declarations are opened.
- `Cells.IsSafe`, `faults_only_when_done`: how calls fail, and what they leave.
-/

namespace Numeral

namespace Session

/-- What a session waits for. -/
inductive Stage where
  | declarations
  | expression
  | done
  deriving DecidableEq, Repr

/-- The stage of a phase. A session waits for declarations even before it is opened. -/
def Phase.stage : Phase → Stage
  | unopened | declarations => .declarations
  | expression => .expression
  | done => .done

theorem Phase.stage_eq_done_iff {p : Phase} : p.stage = .done ↔ p = .done := by
  cases p <;> simp [stage]

/-- A session refuses a line iff it is done. -/
theorem exists_feed_eq_error_iff {s : Session} {line : String} :
    (∃ e, s.feed line = .error e) ↔ s.phase = .done := by
  constructor
  · rintro ⟨e, h⟩
    rw [feed_eq] at h
    cases hadvance : s.start.1.advance line with
    | ok r =>
      rw [hadvance] at h
      cases h
    | error e' =>
      have hdone := phase_of_advance_error hadvance
      rwa [start_eq_of_done hdone] at hdone
  · intro h
    refine ⟨.alreadyDone, ?_⟩
    rw [feed_eq, start_of_phase_ne (by simp [h]), advance_of_done h]
    rfl

/-- The cells of a session, and all messages that it sent. Whether it is opened is kept apart from
what it waits for. -/
structure Cells where
  settings : Settings
  isOpened : Bool
  stage : Stage
  scope : Scope
  declarations : List Declaration.Run
  expression : Option Expression.Run
  diagnostics : List Diagnostic
  sent : List String

namespace Cells

/-- The cells before the first call. -/
def new (settings : Settings) : Cells where
  settings := settings
  isOpened := false
  stage := .declarations
  scope := .empty
  declarations := []
  expression := none
  diagnostics := []
  sent := []

/-- What the cells hold by now. -/
def result (m : Cells) : Result where
  scope := m.scope
  declarations := m.declarations
  expression := m.expression
  diagnostics := m.diagnostics

/-! ## The programs -/

/-- A program that writes cells and stops at the first fault. -/
abbrev Act (α : Type) : Type := EStateM Fault Cells α

/-- Goes on with what was checked, or stops. -/
def require {α : Type} : Except Fault α → Act α
  | .ok a => pure a
  | .error e => throw e

/-- Sends messages. -/
def send (messages : List String) : Act Unit :=
  modify fun m => { m with sent := m.sent ++ messages }

/-- Opens the session with its first prompt, once. -/
def startAct : Act Unit := do
  let m ← get
  if m.isOpened then return
  set { m with isOpened := true }
  if m.settings.prompts then send [Notice.declarationsPrompt m.settings.sentinel]

/-- Takes the sentinel. -/
def sentinelAct : Act Unit := do
  modify fun m => { m with stage := .expression }
  if (← get).settings.prompts then send [Notice.expressionPrompt]

/-- Takes a declaration. -/
def declarationAct (line : String) : Act Unit := do
  let line ← require (Line.resolveChecked line none)
  let (verdict, scope) ← require (Declaration.judgeChecked line.tokens (← get).scope)
  modify fun m => { m with scope := scope }
  let run : Declaration.Run :=
    { line := line, verdict := verdict, diagnostics := line.diagnostics ++ verdict.diagnostics }
  modify fun m => { m with declarations := m.declarations ++ [run] }
  modify fun m => { m with diagnostics := m.diagnostics ++ run.diagnostics }
  let messages ← require run.messagesChecked
  send messages

/-- Takes the expression. -/
def expressionAct (line : String) : Act Unit := do
  let line ← require (Line.resolveChecked line none)
  let m ← get
  let run := Expression.runLine line m.scope m.settings.mode
  set { m with expression := some run }
  modify fun m => { m with diagnostics := m.diagnostics ++ run.diagnostics }
  send run.messages
  modify fun m => { m with stage := .done }

/-- Takes a line as what the session waits for. -/
def advanceAct (line : String) : Act Unit := do
  let m ← get
  match m.stage with
  | .declarations => if line = m.settings.sentinel then sentinelAct else declarationAct line
  | .expression => expressionAct line
  | .done => throw (.feed .alreadyDone)

/-- Opens the session if need be and takes a line. -/
def feedAct (line : String) : Act Unit := do
  startAct
  advanceAct line

/-- Reports that there was no expression. -/
def closeAct : Act Unit := do
  let span ← require (spanAt 0 0)
  let report := Diagnostic.Code.missingExpression.report span
  modify fun m => { m with diagnostics := m.diagnostics ++ [report] }
  send [Notice.diagnostic report]
  modify fun m => { m with stage := .done }

/-- Opens the session if need be, closes it, and gives what it found. -/
def finishAct : Act Result := do
  startAct
  if (← get).stage ≠ .done then closeAct
  return (← get).result

/-- The program of a call. -/
def act : Call → Act Unit
  | .start => startAct
  | .feed line => feedAct line
  | .finish => discard finishAct

/-- The cells behind a call, whether it returns or stops on a fault. -/
def afterAct (m : Cells) (c : Call) : Cells :=
  match (act c).run m with
  | .ok _ m' => m'
  | .error _ m' => m'

/-- The cells behind `calls`. -/
def cellsAfter (settings : Settings) (calls : List Call) : Cells :=
  calls.foldl afterAct (new settings)

@[simp]
theorem run_require_ok {α : Type} (a : α) (m : Cells) : (require (.ok a)).run m = .ok a m :=
  rfl

/-! ## Cells and sessions -/

/-- The cells of the session `s`, which sent these messages. -/
def ofSession (s : Session) (sent : List String) : Cells where
  settings := s.settings
  isOpened := s.phase ≠ .unopened
  stage := s.phase.stage
  scope := s.scope
  declarations := s.declarations
  expression := s.expression
  diagnostics := s.diagnostics
  sent := sent

variable {s : Session} {sent : List String}

theorem run_startAct (s : Session) (sent : List String) :
    startAct.run (ofSession s sent) = .ok () (ofSession s.start.1 (sent ++ s.start.2)) := by
  obtain ⟨settings, phase, _, _, _, _⟩ := s
  cases phase with
  | unopened =>
    cases hprompts : settings.prompts <;>
      simp [startAct, send, ofSession, start, Phase.stage, hprompts]
  | declarations | expression | done => simp [startAct, ofSession, start]

theorem run_sentinelAct (h : s.phase = .declarations) :
    sentinelAct.run (ofSession s sent) =
      .ok () (ofSession s.endDeclarations.1 (sent ++ s.endDeclarations.2)) := by
  cases hprompts : s.settings.prompts <;>
    simp [sentinelAct, send, ofSession, endDeclarations, Phase.stage, hprompts, h]

theorem run_declarationAct (h : s.phase = .declarations) (line : String) :
    (declarationAct line).run (ofSession s sent) =
      .ok () (ofSession (s.takeDeclaration line).1 (sent ++ (s.takeDeclaration line).2)) := by
  rw [declarationAct, Line.resolveChecked_none]
  simp [send, Declaration.judgeChecked_eq, Declaration.Run.messagesChecked_eq, ofSession,
    takeDeclaration, Declaration.runLine, Phase.stage, h]

theorem run_expressionAct (h : s.phase = .expression) (line : String) :
    (expressionAct line).run (ofSession s sent) =
      .ok () (ofSession (s.takeExpression line).1 (sent ++ (s.takeExpression line).2)) := by
  rw [expressionAct, Line.resolveChecked_none]
  simp [send, ofSession, takeExpression, Phase.stage, h]

theorem run_closeAct (h : s.phase ≠ .unopened) :
    closeAct.run (ofSession s sent) =
      .ok () (ofSession s.close (sent ++ [Notice.diagnostic missingExpression])) := by
  have hspan : spanAt 0 0 = .ok (.empty 0) := spanAt_empty 0
  rw [closeAct, hspan]
  simp [send, ofSession, close, missingExpression, Phase.stage, h]

/-- What the program of a call gives, where the call itself gives `r`. -/
def outcome (s : Session) (sent : List String) (r : Except FeedError (Session × List String)) :
    EStateM.Result Fault Cells Unit :=
  match r with
  | .ok r => .ok () (ofSession r.1 (sent ++ r.2))
  | .error e => .error (.feed e) (ofSession s sent)

theorem outcome_eq_error_iff {r : Except FeedError (Session × List String)} {f : Fault}
    {m : Cells} :
    outcome s sent r = .error f m ↔ ∃ e, r = .error e ∧ f = .feed e ∧ m = ofSession s sent := by
  constructor
  · intro h
    cases r with
    | ok r => cases h
    | error e =>
      cases h
      exact ⟨e, rfl, rfl, rfl⟩
  · rintro ⟨e, rfl, rfl, rfl⟩
    rfl

theorem run_advanceAct (h : s.phase ≠ .unopened) (line : String) :
    (advanceAct line).run (ofSession s sent) = outcome s sent (s.advance line) := by
  have hstage : (ofSession s sent).stage = s.phase.stage := rfl
  rw [advanceAct, run_bind_of_ok (EStateM.run_get _), hstage]
  cases hphase : s.phase with
  | unopened => exact absurd hphase h
  | declarations =>
    rw [advance_of_open (.inr hphase)]
    by_cases hline : line = s.settings.sentinel
    · rw [if_pos hline]
      exact (congrArg (EStateM.run · _) (if_pos hline)).trans (run_sentinelAct hphase)
    · rw [if_neg hline]
      exact (congrArg (EStateM.run · _) (if_neg hline)).trans (run_declarationAct hphase line)
  | expression =>
    rw [advance_of_expression hphase]
    exact run_expressionAct hphase line
  | done =>
    rw [advance_of_done hphase]
    rfl

theorem run_finishAct (s : Session) (sent : List String) :
    finishAct.run (ofSession s sent) =
      .ok s.finish.1.result (ofSession s.finish.1 (sent ++ s.finish.2)) := by
  have hstage : (ofSession s.start.1 (sent ++ s.start.2)).stage = s.start.1.phase.stage := rfl
  rw [finishAct, run_bind_of_ok (run_startAct s sent), run_bind_of_ok (EStateM.run_get _), hstage,
    finish_eq]
  by_cases h : s.start.1.phase = .done
  · rw [if_pos h, if_neg (by simp [h, Phase.stage])]
    rfl
  · have hne : s.start.1.phase.stage ≠ .done := by
      cases hphase : s.start.1.phase <;> simp_all [Phase.stage]
    rw [if_neg h, if_pos hne, run_bind_of_ok (run_closeAct s.phase_start_ne_unopened),
      List.append_assoc]
    rfl

/-- **Programs and calls.** Where a call gives a session and messages, its program writes them.
Where the call is refused, its program stops and has written nothing. -/
theorem run_act (s : Session) (sent : List String) (c : Call) :
    (act c).run (ofSession s sent) = outcome s sent (s.perform c) := by
  cases c with
  | start => exact run_startAct s sent
  | feed line =>
    rw [act, feedAct, run_bind_of_ok (run_startAct s sent),
      run_advanceAct s.phase_start_ne_unopened, perform, feed_eq]
    cases hadvance : s.start.1.advance line with
    | ok r => simp [outcome, Except.map]
    | error e =>
      -- A session that refuses a line is done, so that it was opened before.
      rw [start_eq_of_done (phase_of_advance_error hadvance)]
      simp [outcome, Except.map]
  | finish =>
    rw [act]
    exact (run_bind_of_ok (run_finishAct s sent) _).trans rfl

/-! ## Any calls -/

private theorem afterAct_ofSession (s : Session) (sent : List String) (c : Call) :
    afterAct (ofSession s sent) c = ofSession (s.call c).1 (sent ++ (s.call c).2) := by
  rw [afterAct, run_act, call]
  cases s.perform c with
  | ok r => rfl
  | error e =>
    rw [List.append_nil]
    rfl

theorem cellsAfter_eq (settings : Settings) (calls : List Call) :
    cellsAfter settings calls =
      ofSession (afterCalls settings calls).1 (afterCalls settings calls).2 := by
  induction calls using List.reverseRecOn with
  | nil => rfl
  | append_singleton calls c ih =>
    rw [afterCalls_concat, ← afterAct_ofSession, ← ih, cellsAfter, List.foldl_append]
    rfl

/-- The cells are opened by the first call, whatever it is. -/
theorem isOpened_cellsAfter_iff (settings : Settings) (calls : List Call) :
    (cellsAfter settings calls).isOpened = true ↔ calls ≠ [] := by
  rw [cellsAfter_eq, ofSession, decide_eq_true_iff]
  constructor
  · rintro hphase rfl
    exact hphase rfl
  · exact fun hne => (opening_afterCalls settings hne).1

/-- Cells that no longer wait for declarations are opened, and the opening was sent first. -/
theorem isOpened_of_stage_ne {settings : Settings} {calls : List Call}
    (h : (cellsAfter settings calls).stage ≠ .declarations) :
    (cellsAfter settings calls).isOpened = true ∧
      (ofSettings settings).start.2 <+: (cellsAfter settings calls).sent := by
  have hne : calls ≠ [] := by
    rintro rfl
    exact h rfl
  refine ⟨(isOpened_cellsAfter_iff settings calls).mpr hne, ?_⟩
  rw [cellsAfter_eq]
  exact (opening_afterCalls settings hne).2

private theorem foldl_afterAct_of_done (h : s.phase = .done) (calls : List Call) :
    calls.foldl afterAct (ofSession s sent) = ofSession s sent := by
  induction calls with
  | nil => rfl
  | cons c calls ih => rw [List.foldl_cons, afterAct_ofSession, call_of_done h, List.append_nil, ih]

/-- Calls on these cells stop only where they feed a session that is done, and change nothing
then. -/
structure IsSafe (m : Cells) : Prop where
  start_returns : ∃ m', startAct.run m = .ok () m'
  finish_returns : ∃ r m', finishAct.run m = .ok r m'
  feed_stops_iff : ∀ line, (∃ e m', (feedAct line).run m = .error e m') ↔ m.stage = .done
  eq_of_feed_stops : ∀ line e m', (feedAct line).run m = .error e m' →
    e = .feed .alreadyDone ∧ m' = m
  start_of_done : m.stage = .done → startAct.run m = .ok () m
  finish_of_done : m.stage = .done → finishAct.run m = .ok m.result m
  foldl_of_done : m.stage = .done → ∀ more : List Call, more.foldl afterAct m = m
  finish_again : ∀ r m', finishAct.run m = .ok r m' →
    ∀ more : List Call, finishAct.run (more.foldl afterAct m') = .ok r m'

theorem isSafe_ofSession (s : Session) (sent : List String) : (ofSession s sent).IsSafe := by
  have hfeed : ∀ line, (feedAct line).run (ofSession s sent) = outcome s sent (s.feed line) :=
    fun line => run_act s sent (.feed line)
  have hdone : (ofSession s sent).stage = .done ↔ s.phase = .done := Phase.stage_eq_done_iff
  -- A session whose cells these are is opened if it is done, so that opening it writes nothing.
  refine {
    start_returns := ⟨_, run_startAct s sent⟩
    finish_returns := ⟨_, _, run_finishAct s sent⟩
    feed_stops_iff := fun line => ?_
    eq_of_feed_stops := fun line e m' h => ?_
    start_of_done := fun h => ?_
    finish_of_done := fun h => ?_
    foldl_of_done := fun h => foldl_afterAct_of_done (hdone.mp h)
    finish_again := fun r m' h more => ?_ }
  · have hrefused : (∃ e, s.feed line = .error e) ↔ s.phase = .done := exists_feed_eq_error_iff
    rw [hfeed, hdone, ← hrefused]
    constructor
    · rintro ⟨f, m', h⟩
      obtain ⟨e, he, -⟩ := outcome_eq_error_iff.mp h
      exact ⟨e, he⟩
    · rintro ⟨e, he⟩
      exact ⟨_, _, outcome_eq_error_iff.mpr ⟨e, he, rfl, rfl⟩⟩
  · rw [hfeed] at h
    obtain ⟨⟨⟩, -, rfl, rfl⟩ := outcome_eq_error_iff.mp h
    exact ⟨rfl, rfl⟩
  · rw [run_startAct, start_of_phase_ne (by simp [hdone.mp h]), List.append_nil]
  · rw [run_finishAct, finish_of_done (hdone.mp h), List.append_nil]
    rfl
  · rw [run_finishAct] at h
    cases h
    rw [foldl_afterAct_of_done s.phase_finish, run_finishAct, finish_of_done s.phase_finish,
      List.append_nil]

end Cells

end Session

/-- **Only a session that is done refuses, and only lines.** Whatever was called before, opening and
ending a session never fails, and feeding it stops exactly if it is done, with the report of that
and no other fault, whatever the line is. A call that stops and every call of a session that is done
leave all cells alone and send nothing, so that every end behind the first gives its result again.
The cells are at any time those of the session that the calls lead to. -/
theorem faults_only_when_done (settings : Session.Settings) (calls : List Session.Call) :
    Session.Cells.cellsAfter settings calls =
        .ofSession (Session.afterCalls settings calls).1 (Session.afterCalls settings calls).2 ∧
      (Session.Cells.cellsAfter settings calls).IsSafe := by
  rw [Session.Cells.cellsAfter_eq]
  exact ⟨rfl, Session.Cells.isSafe_ofSession _ _⟩

end Numeral
