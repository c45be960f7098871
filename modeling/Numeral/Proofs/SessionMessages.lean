import Numeral.Proofs.SessionCalls

/-!
# What a session says

A session gives its messages line by line, and its result at the end. The messages are those of the
result: of its declarations, one after the other, and then of its expression or of the lack of one.
Prompts stand between them and change nothing else.

- `Session.IsDriven`: what a session has said behind the lines that it was driven through. Every
  further line keeps it (`Session.IsDriven.feed`), so that it holds of every driven session
  (`Session.isDriven_driven`).
- `Session.messages_transcript`: the messages of a transcript, by its result.
- `Session.transcript_withPrompts`: prompts bear neither on the result nor on the lines taken.
- `prompts_only_add_messages`: the messages with and without prompts.
-/

namespace Numeral

namespace Session

variable {s next : Session} {settings : Settings} {lines sent messages : List String}
  {line : String}

/-! ## The messages of a result -/

/-- The prompt for the expression, where prompts are given. -/
def Settings.expressionPrompts (settings : Settings) : List String :=
  if settings.prompts then [Notice.expressionPrompt] else []

/-- The messages about the expression, or the report that it is missing. -/
def Result.lastMessages (r : Result) : List String :=
  match r.expression with
  | some run => run.messages
  | none => [Notice.diagnostic missingExpression]

/-- What a session says of the lines that it took: the messages of the declarations, the prompt for
the expression once they have ended, and the messages of the expression. -/
def spoken (s : Session) : List String :=
  s.declarations.flatMap (·.messages) ++
    ((if s.phase = .declarations then [] else s.settings.expressionPrompts) ++
      s.expression.toList.flatMap (·.messages))

/-- What holds of a session that was opened and driven through `lines`, and has `sent` its messages:
it waits for declarations until the sentinel comes, it is done once it has an expression, and it has
said all that there is to say. -/
structure IsDriven (s : Session) (settings : Settings) (lines sent : List String) : Prop where
  settings_eq : s.settings = settings
  isOpen_iff : s.phase = .declarations ↔ settings.sentinel ∉ lines
  isDone_iff : s.phase = .done ↔ s.expression ≠ none
  sent_eq : sent = (ofSettings settings).start.2 ++ s.spoken

theorem isDriven_start (settings : Settings) :
    (ofSettings settings).start.1.IsDriven settings [] (ofSettings settings).start.2 where
  settings_eq := rfl
  isOpen_iff := by simp [start, ofSettings]
  isDone_iff := by simp [start, ofSettings]
  sent_eq := by simp [start, ofSettings, spoken]

theorem IsDriven.expression_eq_none (h : s.IsDriven settings lines sent)
    (hphase : s.phase ≠ .done) : s.expression = none :=
  not_not.mp fun hexpression => hphase (h.isDone_iff.mpr hexpression)

theorem IsDriven.takeDeclaration (h : s.IsDriven settings lines sent)
    (hphase : s.phase = .declarations) (hline : line ≠ settings.sentinel) :
    (s.takeDeclaration line).1.IsDriven settings (lines ++ [line])
      (sent ++ (s.takeDeclaration line).2) where
  settings_eq := h.settings_eq
  isOpen_iff := by
    rw [List.mem_append, not_or, List.mem_singleton, ← h.isOpen_iff]
    exact (and_iff_left hline.symm).symm
  isDone_iff := h.isDone_iff
  sent_eq := by
    have hnone := h.expression_eq_none (by simp [hphase])
    rw [h.sent_eq, List.append_assoc]
    simp [spoken, Session.takeDeclaration, hphase, hnone]

theorem IsDriven.endDeclarations (h : s.IsDriven settings lines sent)
    (hphase : s.phase = .declarations) :
    s.endDeclarations.1.IsDriven settings (lines ++ [settings.sentinel])
      (sent ++ s.endDeclarations.2) where
  settings_eq := h.settings_eq
  isOpen_iff := by simp [Session.endDeclarations]
  isDone_iff := by
    have hnone := h.expression_eq_none (by simp [hphase])
    simp [Session.endDeclarations, hnone]
  sent_eq := by
    have hnone := h.expression_eq_none (by simp [hphase])
    rw [h.sent_eq, List.append_assoc]
    simp [spoken, Session.endDeclarations, hphase, hnone, Settings.expressionPrompts]

theorem IsDriven.takeExpression (h : s.IsDriven settings lines sent)
    (hphase : s.phase = .expression) (line : String) :
    (s.takeExpression line).1.IsDriven settings (lines ++ [line])
      (sent ++ (s.takeExpression line).2) where
  settings_eq := h.settings_eq
  isOpen_iff := by
    refine iff_of_false Phase.noConfusion fun hmem => ?_
    have hopen := h.isOpen_iff.mpr fun hlines => hmem (List.mem_append_left _ hlines)
    exact Phase.noConfusion (hphase.symm.trans hopen)
  isDone_iff := by simp [Session.takeExpression]
  sent_eq := by
    have hnone := h.expression_eq_none (by simp [hphase])
    rw [h.sent_eq, List.append_assoc]
    simp [spoken, Session.takeExpression, hphase, hnone]

/-- A session that is driven through one more line says what there is to say of it. -/
theorem IsDriven.feed (h : s.IsDriven settings lines sent)
    (hstep : s.Step (.feed line) next messages) :
    next.IsDriven settings (lines ++ [line]) (sent ++ messages) := by
  cases hstep with
  | declaration hphase hline => exact h.takeDeclaration hphase (h.settings_eq ▸ hline)
  | sentinel hphase =>
    rw [h.settings_eq]
    exact h.endDeclarations hphase
  | expression line hphase => exact h.takeExpression hphase line
  | refused line hphase =>
    have hmem : settings.sentinel ∈ lines := by
      refine not_not.mp fun hlines => ?_
      exact Phase.noConfusion (hphase.symm.trans (h.isOpen_iff.mpr hlines))
    refine ⟨h.settings_eq, ?_, h.isDone_iff, by rw [List.append_nil, h.sent_eq]⟩
    exact iff_of_false (by simp [hphase]) fun hnone => hnone (List.mem_append_left _ hmem)

theorem isDriven_driven (settings : Settings) (lines : List String) :
    (driven settings lines).1.IsDriven settings lines (driven settings lines).2 := by
  induction lines using List.reverseRecOn with
  | nil => simpa [driven, feedAll] using isDriven_start settings
  | append_singleton lines line ih =>
    obtain ⟨messages, hmessages, hstep⟩ := step_call (driven settings lines).1 (.feed line)
    rw [start_of_phase_ne (phase_driven_ne_unopened settings lines)] at hmessages hstep
    rw [driven_concat, hmessages, List.nil_append]
    exact ih.feed hstep

/-- **Messages of a transcript.** Behind the opening there are the messages of the declarations, the
prompt for the expression if the sentinel is among the lines, and the messages of the expression or
the report that it is missing. -/
theorem messages_transcript (settings : Settings) (lines : List String) :
    (transcript settings lines).messages =
      (ofSettings settings).start.2 ++
        ((transcript settings lines).result.declarations.flatMap (·.messages) ++
          ((if settings.sentinel ∈ lines then settings.expressionPrompts else []) ++
            (transcript settings lines).result.lastMessages)) := by
  have h := isDriven_driven settings lines
  obtain ⟨hresult, hmessages⟩ := transcript_eq_driven settings lines
  have hprompts : (if (driven settings lines).1.phase = .declarations then []
      else (driven settings lines).1.settings.expressionPrompts) =
      if settings.sentinel ∈ lines then settings.expressionPrompts else [] := by
    rw [h.settings_eq]
    by_cases hmem : settings.sentinel ∈ lines
    · rw [if_pos hmem, if_neg fun hphase => h.isOpen_iff.mp hphase hmem]
    · rw [if_neg hmem, if_pos (h.isOpen_iff.mpr hmem)]
  rw [hmessages, hresult, h.sent_eq, spoken, hprompts]
  -- Only a session without an expression says something more when it is closed.
  by_cases hphase : (driven settings lines).1.phase = .done
  · obtain ⟨run, hrun⟩ := Option.ne_none_iff_exists'.mp (h.isDone_iff.mp hphase)
    simp [finish_of_done hphase, Result.lastMessages, result, hrun]
  · have hnone := h.expression_eq_none hphase
    have hfinish := (driven settings lines).1.finish_eq
    rw [start_of_phase_ne (phase_driven_ne_unopened settings lines), if_neg hphase] at hfinish
    simp [hfinish, Result.lastMessages, result, close, hnone]

/-! ## Prompts -/

/-- The settings with prompts or without. -/
def Settings.withPrompts (settings : Settings) (prompts : Bool) : Settings :=
  { settings with prompts := prompts }

/-- The session with prompts from here on, or without. -/
def withPrompts (s : Session) (prompts : Bool) : Session :=
  { s with settings := s.settings.withPrompts prompts }

private theorem advance_withPrompts (s : Session) (prompts : Bool) (line : String) :
    ((s.withPrompts prompts).advance line).map (·.1) =
      (s.advance line).map fun r => r.1.withPrompts prompts := by
  have hphase : (s.withPrompts prompts).phase = s.phase := rfl
  have hsentinel : (s.withPrompts prompts).settings.sentinel = s.settings.sentinel := rfl
  cases h : s.phase with
  | done => rw [advance_of_done (hphase.trans h), advance_of_done h]; rfl
  | expression => rw [advance_of_expression (hphase.trans h), advance_of_expression h]; rfl
  | unopened =>
    rw [advance_of_open (.inl (hphase.trans h)), advance_of_open (.inl h), hsentinel]
    split <;> rfl
  | declarations =>
    rw [advance_of_open (.inr (hphase.trans h)), advance_of_open (.inr h), hsentinel]
    split <;> rfl

/-- Prompts bear neither on the session behind some lines nor on which of them it takes. -/
theorem feedAll_withPrompts (s : Session) (prompts : Bool) (lines : List String) :
    ((s.withPrompts prompts).feedAll lines).1 = (s.feedAll lines).1.withPrompts prompts ∧
      ((s.withPrompts prompts).feedAll lines).2.1.map (·.line) =
        (s.feedAll lines).2.1.map (·.line) ∧
      ((s.withPrompts prompts).feedAll lines).2.2 = (s.feedAll lines).2.2 := by
  induction lines generalizing s with
  | nil => exact ⟨rfl, rfl, rfl⟩
  | cons line lines ih =>
    have hadvance := s.advance_withPrompts prompts line
    rw [feedAll, feedAll]
    -- Whether a line is taken does not depend on the prompts.
    cases h : s.advance line with
    | error e =>
      cases h' : (s.withPrompts prompts).advance line with
      | error e' => exact ⟨rfl, rfl, rfl⟩
      | ok r' => rw [h, h'] at hadvance; cases hadvance
    | ok r =>
      cases h' : (s.withPrompts prompts).advance line with
      | error e' => rw [h, h'] at hadvance; cases hadvance
      | ok r' =>
        rw [h, h'] at hadvance
        have hnext : r'.1 = r.1.withPrompts prompts := Except.ok.inj hadvance
        obtain ⟨hlast, hlines, hleft⟩ := ih r.1
        simp only [hnext, hlast, hleft, List.map_cons, hlines, and_self]

private theorem result_finish_withPrompts (s : Session) (prompts : Bool) :
    (s.withPrompts prompts).finish.1.result = s.finish.1.result := by
  cases h : s.phase <;> simp [finish, start, withPrompts, h, result]

/-- A session finds the same and takes the same lines with prompts and without. -/
theorem transcript_withPrompts (settings : Settings) (prompts : Bool) (lines : List String) :
    (transcript (settings.withPrompts prompts) lines).result =
        (transcript settings lines).result ∧
      (transcript (settings.withPrompts prompts) lines).exchanges.map (·.line) =
        (transcript settings lines).exchanges.map (·.line) ∧
      (transcript (settings.withPrompts prompts) lines).left =
        (transcript settings lines).left := by
  obtain ⟨hlast, hlines, hleft⟩ :=
    feedAll_withPrompts (ofSettings settings).start.1 prompts lines
  have hdriven : (driven (settings.withPrompts prompts) lines).1 =
      (driven settings lines).1.withPrompts prompts := hlast
  refine ⟨?_, hlines, hleft⟩
  rw [(transcript_eq_driven _ lines).1, hdriven, result_finish_withPrompts]
  rfl

end Session

/-- **Messages tell the result, and prompts only come in between.** Without prompts a session says
what its declarations give, one after the other, and then what its expression gives or that it is
missing. With prompts it finds the same and takes the same lines. It says the same behind the prompt
for declarations, and, if the sentinel is among the lines, puts the prompt for the expression between
the declarations and the rest. -/
theorem prompts_only_add_messages (settings : Session.Settings) (lines : List String) :
    let silent := Session.transcript (settings.withPrompts false) lines
    let prompted := Session.transcript (settings.withPrompts true) lines
    silent.messages =
        silent.result.declarations.flatMap (·.messages) ++ silent.result.lastMessages ∧
      prompted.result = silent.result ∧
      prompted.exchanges.map (·.line) = silent.exchanges.map (·.line) ∧
      prompted.left = silent.left ∧
      prompted.messages =
        Session.Notice.declarationsPrompt settings.sentinel ::
          (silent.result.declarations.flatMap (·.messages) ++
            ((if settings.sentinel ∈ lines then [Session.Notice.expressionPrompt] else []) ++
              silent.result.lastMessages)) := by
  intro silent prompted
  obtain ⟨hresult, hlines, hleft⟩ := Session.transcript_withPrompts settings true lines
  obtain ⟨hresult', hlines', hleft'⟩ := Session.transcript_withPrompts settings false lines
  have hsame : prompted.result = silent.result := hresult.trans hresult'.symm
  refine ⟨?_, hsame, hlines.trans hlines'.symm, hleft.trans hleft'.symm, ?_⟩
  · have hmessages := Session.messages_transcript (settings.withPrompts false) lines
    have hopening : (Session.ofSettings (settings.withPrompts false)).start.2 = [] := rfl
    have hprompts : (settings.withPrompts false).expressionPrompts = [] := rfl
    rw [hopening, hprompts, ite_self, List.nil_append, List.nil_append] at hmessages
    exact hmessages
  · rw [← hsame]
    exact Session.messages_transcript (settings.withPrompts true) lines

end Numeral
