import Numeral.Proofs.FirstWins
import Numeral.Proofs.LineDiagnostics

/-!
# What a session records

A caller can start, feed and finish a session in any order, and a call that is refused leaves the
session alone. Whatever the calls are, the parts of the session stay consistent with each other and
with the lines that were fed.

- `Session.Step`, `Session.step_call`: all that a call can do to an open session.
- `Session.Records`: what a session holds behind some calls. Every call keeps it
  (`Session.Records.call`), so that every sequence of calls does (`Session.records_afterCalls`).
- `Session.IsConsistent`: how the scope, the declarations, the expression, the diagnostics and the
  phase agree.
- `isConsistent_afterCalls`: they do so behind any calls.
-/

namespace Numeral

/-! ## Scopes and accepted declarations -/

/-- What a declaration puts into the scope. -/
def Declaration.Verdict.declared? : Verdict → Option (String × Base)
  | accepted d => some (d.name.text, d.base)
  | _ => none

/-- The names that `runs` declare, with their bases. -/
def acceptedEntries (runs : List Declaration.Run) : List (String × Base) :=
  runs.filterMap (·.verdict.declared?)

theorem Declaration.entries_judge (tokens : List Token) (scope : Scope) :
    (judge tokens scope).2.entries =
      scope.entries ++ ((judge tokens scope).1.declared?).toList := by
  cases h : ofTokens? tokens with
  | none => simp [judge_of_none h, Verdict.declared?]
  | some d =>
    by_cases hmem : d.name.text ∈ scope
    · simp [judge_of_mem h hmem, Verdict.declared?]
    · cases hvalue : d.base.accepts d.value.text with
      | true => simp [judge_of_accepts h hmem hvalue, Verdict.declared?]
      | false => simp [judge_of_not_accepts h hmem hvalue, Verdict.declared?]

/-- The scope behind some lines holds the names of the accepted ones, in their order. -/
theorem entries_scopeAfter_empty (lines : List String) :
    (scopeAfter .empty lines).entries = acceptedEntries (runsOf lines) := by
  induction lines using List.reverseRecOn with
  | nil => rfl
  | append_singleton lines line ih =>
    rw [scopeAfter_concat, runsOf_concat, Declaration.entries_judge, ih, acceptedEntries,
      acceptedEntries, List.filterMap_append, List.append_cancel_left_eq, List.filterMap_cons,
      Declaration.verdict_runLine, Line.tokens_ofText]
    cases (Declaration.judge (tokensOf line) (scopeAfter .empty lines)).1.declared? <;> rfl

theorem map_line_runsOf (lines : List String) :
    (runsOf lines).map (·.line) = lines.map Line.ofText := by
  refine List.ext_getElem (by simp [runsOf]) fun i hi hi' => ?_
  simp [runsOf, Declaration.runLine]

private theorem map_source_runsOf (lines : List String) :
    (runsOf lines).map (·.line.source) = lines := by
  have hsource := congrArg (List.map Line.source) (map_line_runsOf lines)
  rw [List.map_map, List.map_map] at hsource
  exact hsource.trans (List.map_id lines)

/-- Every result is that of one of the lines, in some scope. -/
theorem exists_of_mem_runsOf {lines : List String} {run : Declaration.Run}
    (h : run ∈ runsOf lines) :
    ∃ line ∈ lines, ∃ scope, run = (Declaration.runLine (.ofText line) scope).1 := by
  obtain ⟨i, hi, rfl⟩ := List.mem_mapIdx.mp h
  exact ⟨lines[i], List.getElem_mem hi, _, rfl⟩

namespace Session

/-! ## Calls -/

/-- What a caller can do with a session. -/
inductive Call where
  | start
  | feed (line : String)
  | finish
  deriving DecidableEq, Repr

/-- The session behind a call and the messages of the call, or why the call is refused. -/
def perform (s : Session) : Call → Except FeedError (Session × List String)
  | .start => .ok s.start
  | .feed line => s.feed line
  | .finish => .ok s.finish

/-- The session behind a call, and the messages of the call. A call that is refused leaves the
session alone. -/
def call (s : Session) (c : Call) : Session × List String :=
  match s.perform c with
  | .ok r => r
  | .error _ => (s, [])

/-- The session behind `calls`, and all messages up to there. -/
def afterCalls (settings : Settings) (calls : List Call) : Session × List String :=
  calls.foldl (fun (s, sent) c => ((s.call c).1, sent ++ (s.call c).2)) (ofSettings settings, [])

@[simp]
theorem afterCalls_nil (settings : Settings) : afterCalls settings [] = (ofSettings settings, []) :=
  rfl

theorem afterCalls_concat (settings : Settings) (calls : List Call) (c : Call) :
    afterCalls settings (calls ++ [c]) =
      (((afterCalls settings calls).1.call c).1,
        (afterCalls settings calls).2 ++ ((afterCalls settings calls).1.call c).2) := by
  simp [afterCalls, List.foldl_append]

/-! ## What a call can do -/

/-- The session closed without an expression. -/
def close (s : Session) : Session :=
  { s with phase := .done, diagnostics := s.diagnostics ++ [missingExpression] }

/-- All that a call can do to a session that is opened: the session behind it and its messages. -/
inductive Step (s : Session) : Call → Session → List String → Prop
  | start : Step s .start s []
  | declaration {line : String} (hphase : s.phase = .declarations)
      (hline : line ≠ s.settings.sentinel) :
      Step s (.feed line) (s.takeDeclaration line).1 (s.takeDeclaration line).2
  | sentinel (hphase : s.phase = .declarations) :
      Step s (.feed s.settings.sentinel) s.endDeclarations.1 s.endDeclarations.2
  | expression (line : String) (hphase : s.phase = .expression) :
      Step s (.feed line) (s.takeExpression line).1 (s.takeExpression line).2
  | refused (line : String) (hphase : s.phase = .done) : Step s (.feed line) s []
  | close (hphase : s.phase ≠ .done) : Step s .finish s.close [Notice.diagnostic missingExpression]
  | closed (hphase : s.phase = .done) : Step s .finish s []

variable {s : Session} {settings : Settings} {calls : List Call} {c : Call}

theorem phase_start_ne_unopened (s : Session) : s.start.1.phase ≠ .unopened := by
  unfold start
  split
  · simp
  · assumption

theorem start_of_phase_ne (h : s.phase ≠ .unopened) : s.start = (s, []) := by
  unfold start
  split
  · exact absurd (by assumption) h
  · rfl

theorem start_eq_of_done (h : s.start.1.phase = .done) : s.start = (s, []) := by
  by_cases hs : s.phase = .unopened
  · simp [start, hs] at h
  · exact start_of_phase_ne hs

theorem call_feed_of_ok {line : String} {r : Session × List String}
    (h : s.start.1.advance line = .ok r) : s.call (.feed line) = (r.1, s.start.2 ++ r.2) := by
  rw [call, perform, feed_eq, h]
  rfl

theorem call_feed_of_done (h : s.start.1.phase = .done) (line : String) :
    s.call (.feed line) = (s, []) := by
  rw [call, perform, feed_eq, advance_of_done h]
  rfl

theorem call_finish (s : Session) :
    s.call .finish =
      if s.start.1.phase = .done then s.start
      else (s.start.1.close, s.start.2 ++ [Notice.diagnostic missingExpression]) := by
  rw [call, perform, finish]
  cases h : s.start.1.phase <;> simp [h, Session.close]

/-- A call opens the session if need be, and then does what it can do to an opened one. -/
theorem step_call (s : Session) (c : Call) :
    ∃ messages, (s.call c).2 = s.start.2 ++ messages ∧
      s.start.1.Step c (s.call c).1 messages := by
  cases c with
  | start => exact ⟨[], by simp [call, perform], .start⟩
  | feed line =>
    cases hphase : s.start.1.phase with
    | unopened => exact absurd hphase s.phase_start_ne_unopened
    | declarations =>
      have hadvance := advance_of_open (.inr hphase) line
      by_cases hline : line = s.start.1.settings.sentinel
      · rw [if_pos hline] at hadvance
        rw [call_feed_of_ok hadvance]
        exact ⟨_, rfl, hline ▸ .sentinel hphase⟩
      · rw [if_neg hline] at hadvance
        rw [call_feed_of_ok hadvance]
        exact ⟨_, rfl, .declaration hphase hline⟩
    | expression =>
      rw [call_feed_of_ok (advance_of_expression hphase line)]
      exact ⟨_, rfl, .expression line hphase⟩
    | done =>
      rw [call_feed_of_done hphase, start_eq_of_done hphase]
      rw [start_eq_of_done hphase] at hphase
      exact ⟨[], rfl, .refused line hphase⟩
  | finish =>
    rw [call_finish]
    split
    · rename_i hphase
      exact ⟨[], (List.append_nil _).symm, .closed hphase⟩
    · rename_i hphase
      exact ⟨_, rfl, .close hphase⟩

/-! ## The lines that are declarations -/

/-- Whether the call leaves an open session open. -/
def Call.keepsOpen (sentinel : String) : Call → Bool
  | .start => true
  | .feed line => line ≠ sentinel
  | .finish => false

/-- The line that a call feeds. -/
def Call.line? : Call → Option String
  | .feed line => some line
  | _ => none

/-- The lines that `calls` feed before the first sentinel and before they finish. -/
def declarationLines (sentinel : String) (calls : List Call) : List String :=
  (calls.takeWhile (·.keepsOpen sentinel)).filterMap Call.line?

section Lines

variable {sentinel : String}

private theorem declarationLines_concat_of_open (h : ∀ c ∈ calls, c.keepsOpen sentinel = true)
    (c : Call) :
    declarationLines sentinel (calls ++ [c]) =
      declarationLines sentinel calls ++ declarationLines sentinel [c] := by
  rw [declarationLines, declarationLines, declarationLines, List.takeWhile_append_of_pos h,
    List.takeWhile_eq_self_iff.mpr h, List.filterMap_append]

theorem declarationLines_concat_of_not_open (h : ¬ ∀ c ∈ calls, c.keepsOpen sentinel = true)
    (c : Call) : declarationLines sentinel (calls ++ [c]) = declarationLines sentinel calls := by
  have hlength : (calls.takeWhile (·.keepsOpen sentinel)).length ≠ calls.length := fun he =>
    h (List.takeWhile_eq_self_iff.mp ((List.takeWhile_prefix _).eq_of_length he))
  rw [declarationLines, declarationLines, List.takeWhile_append, if_neg hlength]

/-- A call that feeds no declaration adds none, wherever it comes. -/
theorem declarationLines_concat_of_nil (calls : List Call)
    (h : declarationLines sentinel [c] = []) :
    declarationLines sentinel (calls ++ [c]) = declarationLines sentinel calls := by
  by_cases hopen : ∀ c ∈ calls, c.keepsOpen sentinel = true
  · rw [declarationLines_concat_of_open hopen, h, List.append_nil]
  · exact declarationLines_concat_of_not_open hopen c

private theorem declarationLines_of_not_keepsOpen (h : c.keepsOpen sentinel = false) :
    declarationLines sentinel [c] = [] := by
  simp [declarationLines, h]

end Lines

/-! ## What a session holds behind its calls -/

/-- What a session holds behind `calls`. The lines fed before the first sentinel and before the end
are judged as declarations, one after the other. The diagnostics are those of the declarations, of
the expression and of the end without one. -/
structure Records (s : Session) (settings : Settings) (calls : List Call) : Prop where
  settings_eq : s.settings = settings
  isOpen_iff : s.phase = .unopened ∨ s.phase = .declarations ↔
    ∀ c ∈ calls, c.keepsOpen settings.sentinel = true
  scope_eq : s.scope = scopeAfter .empty (declarationLines settings.sentinel calls)
  declarations_eq : s.declarations = runsOf (declarationLines settings.sentinel calls)
  expression_eq : ∀ r ∈ s.expression, s.phase = .done ∧
    ∃ line, r = Expression.runLine (.ofText line) s.scope settings.mode
  diagnostics_eq : s.diagnostics =
    s.declarations.flatMap (·.diagnostics) ++ (s.expression.toList.flatMap (·.diagnostics) ++
      if s.phase = .done ∧ s.expression = none then [missingExpression] else [])

theorem records_ofSettings (settings : Settings) : (ofSettings settings).Records settings [] where
  settings_eq := rfl
  isOpen_iff := by simp [ofSettings]
  scope_eq := rfl
  declarations_eq := rfl
  expression_eq := by simp [ofSettings]
  diagnostics_eq := by simp [ofSettings]

theorem Records.expression_eq_none (h : s.Records settings calls) (hphase : s.phase ≠ .done) :
    s.expression = none :=
  Option.eq_none_iff_forall_not_mem.mpr fun r hr => hphase (h.expression_eq r hr).1

/-- Opening a session changes nothing that it holds. -/
theorem Records.start (h : s.Records settings calls) : s.start.1.Records settings calls := by
  by_cases hphase : s.phase = .unopened
  · obtain ⟨hsettings, hopen, hscope, hdeclarations, hexpression, hdiagnostics⟩ := h
    have hstart : s.start.1 = { s with phase := .declarations } := by rw [Session.start, hphase]
    rw [hstart]
    exact ⟨hsettings, by simpa [hphase] using hopen, hscope, hdeclarations,
      by simpa [hphase] using hexpression, by simpa [hphase] using hdiagnostics⟩
  · rw [start_of_phase_ne hphase]
    exact h

/-- A call that changes nothing keeps what the session holds, if it feeds no declaration. -/
theorem Records.unchanged (h : s.Records settings calls)
    (hlines : declarationLines settings.sentinel (calls ++ [c]) =
      declarationLines settings.sentinel calls)
    (hopen : s.phase = .unopened ∨ s.phase = .declarations →
      c.keepsOpen settings.sentinel = true) : s.Records settings (calls ++ [c]) where
  settings_eq := h.settings_eq
  isOpen_iff := by
    rw [List.forall_mem_append, List.forall_mem_singleton, ← h.isOpen_iff]
    exact (and_iff_left_of_imp hopen).symm
  scope_eq := by rw [hlines, h.scope_eq]
  declarations_eq := by rw [hlines, h.declarations_eq]
  expression_eq := h.expression_eq
  diagnostics_eq := h.diagnostics_eq

theorem Records.diagnostics_of_not_done (h : s.Records settings calls) (hphase : s.phase ≠ .done) :
    s.diagnostics = s.declarations.flatMap (·.diagnostics) := by
  simp [h.diagnostics_eq, h.expression_eq_none hphase, hphase]

theorem Records.takeDeclaration (h : s.Records settings calls) (hphase : s.phase = .declarations)
    {line : String} (hline : line ≠ settings.sentinel) :
    (s.takeDeclaration line).1.Records settings (calls ++ [.feed line]) := by
  have hdone : s.phase ≠ .done := by simp [hphase]
  have hkeeps : Call.keepsOpen settings.sentinel (.feed line) = true := by
    simp [Call.keepsOpen, hline]
  have hall := h.isOpen_iff.mp (.inr hphase)
  -- Nothing has shut the declarations so far, and this line does not.
  have hlines : declarationLines settings.sentinel (calls ++ [.feed line]) =
      declarationLines settings.sentinel calls ++ [line] := by
    rw [declarationLines_concat_of_open hall]
    simp [declarationLines, hkeeps, Call.line?]
  exact {
    settings_eq := h.settings_eq
    isOpen_iff := by
      rw [List.forall_mem_append, List.forall_mem_singleton]
      exact iff_of_true (.inr hphase) ⟨hall, hkeeps⟩
    scope_eq := by
      rw [hlines, scopeAfter_concat, ← h.scope_eq]
      rfl
    declarations_eq := by
      rw [hlines, runsOf_concat, ← h.scope_eq, ← h.declarations_eq]
      rfl
    expression_eq := by simp [Session.takeDeclaration, h.expression_eq_none hdone]
    diagnostics_eq := by
      simp [Session.takeDeclaration, h.diagnostics_of_not_done hdone, h.expression_eq_none hdone,
        hphase] }

theorem Records.endDeclarations (h : s.Records settings calls) (hphase : s.phase = .declarations) :
    s.endDeclarations.1.Records settings (calls ++ [.feed settings.sentinel]) := by
  have hdone : s.phase ≠ .done := by simp [hphase]
  have hc : Call.keepsOpen settings.sentinel (.feed settings.sentinel) = false := by
    simp [Call.keepsOpen]
  have hlines := declarationLines_concat_of_nil calls (declarationLines_of_not_keepsOpen hc)
  exact {
    settings_eq := h.settings_eq
    isOpen_iff := by simp [Session.endDeclarations, hc, or_imp, forall_and]
    scope_eq := hlines ▸ h.scope_eq
    declarations_eq := hlines ▸ h.declarations_eq
    expression_eq := by simp [Session.endDeclarations, h.expression_eq_none hdone]
    diagnostics_eq := by
      simp [Session.endDeclarations, h.diagnostics_of_not_done hdone, h.expression_eq_none hdone] }

theorem Records.takeExpression (h : s.Records settings calls) (hphase : s.phase = .expression)
    (line : String) : (s.takeExpression line).1.Records settings (calls ++ [.feed line]) := by
  have hdone : s.phase ≠ .done := by simp [hphase]
  have hshut : ¬ ∀ c ∈ calls, c.keepsOpen settings.sentinel = true := by
    simp [← h.isOpen_iff, hphase]
  have hlines := declarationLines_concat_of_not_open hshut (.feed line)
  exact {
    settings_eq := h.settings_eq
    isOpen_iff := iff_of_false (by simp [Session.takeExpression])
      fun hall => hshut (List.forall_mem_append.mp hall).1
    scope_eq := hlines ▸ h.scope_eq
    declarations_eq := hlines ▸ h.declarations_eq
    expression_eq := by
      rintro r ⟨⟩
      exact ⟨rfl, line, by rw [h.settings_eq]; rfl⟩
    diagnostics_eq := by simp [Session.takeExpression, h.diagnostics_of_not_done hdone] }

theorem Records.close (h : s.Records settings calls) (hphase : s.phase ≠ .done) :
    s.close.Records settings (calls ++ [.finish]) := by
  have hc : Call.keepsOpen settings.sentinel .finish = false := rfl
  have hlines := declarationLines_concat_of_nil calls (declarationLines_of_not_keepsOpen hc)
  exact {
    settings_eq := h.settings_eq
    isOpen_iff := by simp [Session.close, hc, or_imp, forall_and]
    scope_eq := hlines ▸ h.scope_eq
    declarations_eq := hlines ▸ h.declarations_eq
    expression_eq := by simp [Session.close, h.expression_eq_none hphase]
    diagnostics_eq := by
      simp [Session.close, h.diagnostics_of_not_done hphase, h.expression_eq_none hphase] }

/-- Whatever a call can do to an opened session, it keeps what the session holds. -/
theorem Records.step {next : Session} {messages : List String} (h : s.Records settings calls)
    (hstep : s.Step c next messages) : next.Records settings (calls ++ [c]) := by
  cases hstep with
  | start => exact h.unchanged (declarationLines_concat_of_nil calls rfl) fun _ => rfl
  | declaration hphase hline => exact h.takeDeclaration hphase (h.settings_eq ▸ hline)
  | sentinel hphase =>
    rw [h.settings_eq]
    exact h.endDeclarations hphase
  | expression line hphase => exact h.takeExpression hphase line
  | refused line hphase =>
    have hshut : ¬ ∀ c ∈ calls, c.keepsOpen settings.sentinel = true := by
      simp [← h.isOpen_iff, hphase]
    exact h.unchanged (declarationLines_concat_of_not_open hshut _) (by simp [hphase])
  | close hphase => exact h.close hphase
  | closed hphase =>
    exact h.unchanged (declarationLines_concat_of_nil calls rfl) (by simp [hphase])

theorem Records.call (h : s.Records settings calls) (c : Call) :
    (s.call c).1.Records settings (calls ++ [c]) := by
  obtain ⟨messages, -, hstep⟩ := step_call s c
  exact h.start.step hstep

theorem records_afterCalls (settings : Settings) (calls : List Call) :
    (afterCalls settings calls).1.Records settings calls := by
  induction calls using List.reverseRecOn with
  | nil => exact records_ofSettings settings
  | append_singleton calls c ih =>
    rw [afterCalls_concat]
    exact ih.call c

/-! ## The report of a missing expression -/

theorem Records.filter_missingExpression (h : s.Records settings calls) :
    s.diagnostics.filter (·.code = Diagnostic.Code.missingExpression.name) =
      if s.phase = .done ∧ s.expression = none then [missingExpression] else [] := by
  have hdeclarations : ∀ d ∈ s.declarations.flatMap (·.diagnostics),
      ¬ d.code = Diagnostic.Code.missingExpression.name := by
    intro d hd hcode
    obtain ⟨r, hr, hd⟩ := List.mem_flatMap.mp hd
    rw [h.declarations_eq] at hr
    obtain ⟨line, -, scope, rfl⟩ := exists_of_mem_runsOf hr
    have hcodes := Declaration.code_mem_of_mem_diagnostics hd
    rw [hcode] at hcodes
    exact absurd hcodes (by decide)
  have hexpression : ∀ d ∈ s.expression.toList.flatMap (·.diagnostics),
      ¬ d.code = Diagnostic.Code.missingExpression.name := by
    intro d hd hcode
    obtain ⟨r, hr, hd⟩ := List.mem_flatMap.mp hd
    obtain ⟨-, line, rfl⟩ := h.expression_eq r (Option.mem_toList.mp hr)
    have hcodes := Expression.code_mem_of_mem_diagnostics hd
    rw [hcode] at hcodes
    exact absurd hcodes (by decide)
  rw [h.diagnostics_eq, List.filter_append, List.filter_append,
    List.filter_eq_nil_iff.mpr (by simpa using hdeclarations),
    List.filter_eq_nil_iff.mpr (by simpa using hexpression), List.nil_append, List.nil_append]
  split <;> simp [missingExpression, Diagnostic.Code.report]

/-! ## The opening -/

theorem Step.phase_ne_unopened {next : Session} {messages : List String}
    (h : s.Step c next messages) (hs : s.phase ≠ .unopened) : next.phase ≠ .unopened := by
  cases h with
  | start | refused | closed => exact hs
  | declaration => exact hs
  | sentinel | expression | close => exact Phase.noConfusion

/-- A session is open from its first call on, and the prompt of the opening is its first message. -/
theorem opening_afterCalls (settings : Settings) {calls : List Call} (hne : calls ≠ []) :
    (afterCalls settings calls).1.phase ≠ .unopened ∧
      (ofSettings settings).start.2 <+: (afterCalls settings calls).2 := by
  induction calls using List.reverseRecOn with
  | nil => exact absurd rfl hne
  | append_singleton calls c ih =>
    obtain ⟨messages, hmessages, hstep⟩ := step_call (afterCalls settings calls).1 c
    rw [afterCalls_concat]
    refine ⟨hstep.phase_ne_unopened (phase_start_ne_unopened _), ?_⟩
    -- Only the first call sends the opening; later messages come behind it.
    by_cases hcalls : calls = []
    · subst hcalls
      rw [hmessages]
      exact List.prefix_append _ _
    · exact (ih hcalls).2.trans (List.prefix_append _ _)

/-! ## Consistent sessions -/

/-- How the parts of a session agree with each other, with the calls behind which it stands and with
the messages that it has `sent`. -/
structure IsConsistent (s : Session) (settings : Settings) (calls : List Call)
    (sent : List String) : Prop where
  /-- The scope holds what the accepted declarations declare, in their order. -/
  entries_eq : s.scope.entries = acceptedEntries s.declarations
  nodup_names : ((acceptedEntries s.declarations).map (·.1)).Nodup
  /-- The diagnostics of the declarations, of the expression, and of the end without one. -/
  diagnostics_eq : s.diagnostics =
    s.declarations.flatMap (·.diagnostics) ++ (s.expression.toList.flatMap (·.diagnostics) ++
      if s.phase = .done ∧ s.expression = none then [missingExpression] else [])
  done_of_expression : s.expression ≠ none → s.phase = .done
  /-- A session that is done has an expression or has reported, once, that it is missing. -/
  expression_xor_missing : s.phase = .done →
    Xor (s.expression ≠ none)
      (s.diagnostics.countP (·.code = Diagnostic.Code.missingExpression.name) = 1)
  /-- Past its declarations, a session has been called and its first message was the opening. For a
  session whose opening is kept in a cell of its own, this is `Cells.isOpened_of_stage_ne`. -/
  opened : s.phase = .expression ∨ s.phase = .done →
    calls ≠ [] ∧ (ofSettings settings).start.2 <+: sent
  /-- The declarations are the lines fed before the first sentinel and before the end. -/
  sources_eq : s.declarations.map (·.line.source) = declarationLines settings.sentinel calls
  declarations_eq : s.declarations = runsOf (declarationLines settings.sentinel calls)

theorem Records.expression_xor_missing (h : s.Records settings calls) (hphase : s.phase = .done) :
    Xor (s.expression ≠ none)
      (s.diagnostics.countP (·.code = Diagnostic.Code.missingExpression.name) = 1) := by
  rw [List.countP_eq_length_filter, h.filter_missingExpression]
  cases hexpression : s.expression with
  | none => exact .inr ⟨by simp [hphase], by simp⟩
  | some r => exact .inl ⟨by simp, by simp⟩

end Session

/-- **Consistent sessions.** Behind any calls, refused ones among them, the parts of a session are
consistent. -/
theorem isConsistent_afterCalls (settings : Session.Settings) (calls : List Session.Call) :
    (Session.afterCalls settings calls).1.IsConsistent settings calls
      (Session.afterCalls settings calls).2 := by
  have h := Session.records_afterCalls settings calls
  have hentries : (Session.afterCalls settings calls).1.scope.entries =
      acceptedEntries (Session.afterCalls settings calls).1.declarations := by
    rw [h.scope_eq, h.declarations_eq, entries_scopeAfter_empty]
  refine ⟨hentries, hentries ▸ Scope.nodup _, h.diagnostics_eq, fun hexpression => ?_,
    h.expression_xor_missing, fun hphase => ?_, ?_, h.declarations_eq⟩
  · obtain ⟨r, hr⟩ := Option.ne_none_iff_exists'.mp hexpression
    exact (h.expression_eq r hr).1
  · have hne : calls ≠ [] := by
      rintro rfl
      simp [Session.ofSettings] at hphase
    exact ⟨hne, (Session.opening_afterCalls settings hne).2⟩
  · rw [h.declarations_eq, map_source_runsOf]

end Numeral
