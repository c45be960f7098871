import Numeral.Proofs.SessionHistory

/-!
# Calls and transcripts

A caller takes a session step by step: opens it or not, feeds lines, finishes it, and may go on
calling it. All that matters of such calls are the lines fed before the first end. The session says
and finds what it would if it were driven through these lines.

- `Session.call_of_done`, `Session.afterCalls_append_of_done`: a session that is done stays as it is
  and says nothing more.
- `Session.call_eq_start_call`: every call opens the session first, and opening it is nothing else.
- `Session.feedAll_concat`: driving a session through one more line is feeding it with the line.
- `Session.opened_afterCalls`: calls without an end do what driving the session through their lines
  does.
- `calls_agree_with_transcript`: calls with an end agree with a transcript.
-/

namespace Numeral

namespace Session

variable {s : Session} {settings : Settings} {calls : List Call}

/-! ## Sessions that are done -/

/-- A line is refused only by a session that is done. -/
theorem phase_of_advance_error {line : String} {e : FeedError} (h : s.advance line = .error e) :
    s.phase = .done := by
  cases hphase : s.phase with
  | done => rfl
  | expression =>
    rw [advance_of_expression hphase] at h
    cases h
  | unopened =>
    rw [advance_of_open (.inl hphase)] at h
    split at h <;> cases h
  | declarations =>
    rw [advance_of_open (.inr hphase)] at h
    split at h <;> cases h

/-- A session that is done stays as it is and says nothing, whatever is called. -/
theorem call_of_done (h : s.phase = .done) (c : Call) : s.call c = (s, []) := by
  have hstart : s.start = (s, []) := start_of_phase_ne (by simp [h])
  cases c with
  | start => exact hstart
  | feed line => exact call_feed_of_done (by rw [hstart, h]) line
  | finish => rw [call_finish, hstart, if_pos h]

/-- Finishing a session opens it if need be, and closes it unless it is done. -/
theorem finish_eq (s : Session) :
    s.finish =
      if s.start.1.phase = .done then s.start
      else (s.start.1.close, s.start.2 ++ [Notice.diagnostic missingExpression]) :=
  call_finish s

theorem phase_finish (s : Session) : s.finish.1.phase = .done := by
  rw [finish_eq]
  split
  · assumption
  · rfl

theorem afterCalls_append_of_done (h : (afterCalls settings calls).1.phase = .done)
    (more : List Call) : afterCalls settings (calls ++ more) = afterCalls settings calls := by
  induction more using List.reverseRecOn with
  | nil => rw [List.append_nil]
  | append_singleton more c ih =>
    rw [← List.append_assoc, afterCalls_concat, ih, call_of_done h, List.append_nil]

/-! ## The opening -/

theorem start_start (s : Session) : s.start.1.start = (s.start.1, []) :=
  start_of_phase_ne s.phase_start_ne_unopened

/-- A call does what it does to the session once that is opened, behind the opening. -/
theorem call_eq_start_call (s : Session) (c : Call) :
    s.call c = ((s.start.1.call c).1, s.start.2 ++ (s.start.1.call c).2) := by
  cases c with
  | start => simp [call, perform, start_start]
  | feed line =>
    cases hadvance : s.start.1.advance line with
    | ok r =>
      have hopened : s.start.1.start.1.advance line = .ok r := by rw [start_start, hadvance]
      rw [call_feed_of_ok hadvance, call_feed_of_ok hopened, start_start]
      rfl
    | error e =>
      have hdone := phase_of_advance_error hadvance
      rw [call_of_done hdone, call_feed_of_done hdone, start_eq_of_done hdone]
      rfl
  | finish =>
    rw [call_finish, call_finish, start_start]
    split <;> simp

theorem phase_call_ne_unopened (h : s.phase ≠ .unopened) (c : Call) :
    (s.call c).1.phase ≠ .unopened := by
  obtain ⟨messages, -, hstep⟩ := step_call s c
  rw [start_of_phase_ne h] at hstep
  exact hstep.phase_ne_unopened h

/-! ## Driven sessions -/

/-- A session that is opened takes a line, or is done and stays as it is. -/
theorem call_feed_of_opened (h : s.phase ≠ .unopened) (line : String) :
    s.call (.feed line) =
      match s.advance line with
      | .ok r => r
      | .error _ => (s, []) := by
  rw [call, perform, feed_eq, start_of_phase_ne h]
  cases s.advance line <;> rfl

/-- Driving a session through one more line is feeding it with the line. -/
theorem feedAll_concat (h : s.phase ≠ .unopened) (lines : List String) (line : String) :
    (s.feedAll (lines ++ [line])).1 = ((s.feedAll lines).1.call (.feed line)).1 ∧
      (s.feedAll (lines ++ [line])).2.1.flatMap (·.messages) =
        (s.feedAll lines).2.1.flatMap (·.messages) ++
          ((s.feedAll lines).1.call (.feed line)).2 := by
  induction lines generalizing s with
  | nil =>
    rw [List.nil_append, feedAll, feedAll, call_feed_of_opened h]
    cases s.advance line with
    | ok r => simp [feedAll]
    | error e => simp
  | cons first lines ih =>
    have hcall := call_feed_of_opened h first
    rw [List.cons_append, feedAll, feedAll]
    cases hadvance : s.advance first with
    | ok r =>
      rw [hadvance] at hcall
      have hnext := phase_call_ne_unopened h (.feed first)
      rw [hcall] at hnext
      obtain ⟨hlast, hmessages⟩ := ih hnext
      exact ⟨hlast, by simp [hmessages]⟩
    | error e => simp [call_of_done (phase_of_advance_error hadvance)]

/-- The session that was opened and driven through `lines`, and all messages up to there. -/
def driven (settings : Settings) (lines : List String) : Session × List String :=
  let (s, opening) := (ofSettings settings).start
  let (last, exchanges, _) := s.feedAll lines
  (last, opening ++ exchanges.flatMap (·.messages))

theorem driven_concat (settings : Settings) (lines : List String) (line : String) :
    driven settings (lines ++ [line]) =
      (((driven settings lines).1.call (.feed line)).1,
        (driven settings lines).2 ++ ((driven settings lines).1.call (.feed line)).2) := by
  obtain ⟨hlast, hmessages⟩ :=
    feedAll_concat (ofSettings settings).phase_start_ne_unopened lines line
  simp only [driven, hlast, hmessages, List.append_assoc]

theorem phase_driven_ne_unopened (settings : Settings) (lines : List String) :
    (driven settings lines).1.phase ≠ .unopened := by
  induction lines using List.reverseRecOn with
  | nil => exact (ofSettings settings).phase_start_ne_unopened
  | append_singleton lines line ih =>
    rw [driven_concat]
    exact phase_call_ne_unopened ih _

/-- A transcript is a driven session and its end. -/
theorem transcript_eq_driven (settings : Settings) (lines : List String) :
    (transcript settings lines).result = (driven settings lines).1.finish.1.result ∧
      (transcript settings lines).messages =
        (driven settings lines).2 ++ (driven settings lines).1.finish.2 :=
  ⟨rfl, rfl⟩

/-! ## Calls -/

/-- The lines that `calls` feed before they finish the session for the first time. -/
def linesBeforeFinish (calls : List Call) : List String :=
  (calls.takeWhile (· ≠ .finish)).filterMap Call.line?

theorem linesBeforeFinish_of_not_mem (h : .finish ∉ calls) (behind : List Call) :
    linesBeforeFinish (calls ++ .finish :: behind) = calls.filterMap Call.line? := by
  have hall : ∀ c ∈ calls, decide (c ≠ .finish) = true := fun c hc =>
    decide_eq_true fun he => h (he ▸ hc)
  rw [linesBeforeFinish, List.takeWhile_append_of_pos hall, List.takeWhile_cons_of_neg (by simp),
    List.append_nil]

/-- Calls that do not finish a session do what driving it through their lines does, once it is
opened. -/
theorem opened_afterCalls (h : .finish ∉ calls) :
    ((afterCalls settings calls).1.start.1,
        (afterCalls settings calls).2 ++ (afterCalls settings calls).1.start.2) =
      driven settings (calls.filterMap Call.line?) := by
  induction calls using List.reverseRecOn with
  | nil => simp [driven, feedAll]
  | append_singleton calls c ih =>
    rw [List.mem_append, not_or, List.mem_singleton] at h
    have ih := ih h.1
    rw [afterCalls_concat, List.filterMap_append, call_eq_start_call]
    cases c with
    | start =>
      have hlines : [Call.start].filterMap Call.line? = [] := rfl
      rw [hlines, List.append_nil, ← ih]
      simp [call, perform, start_start]
    | feed line =>
      have hlines : [Call.feed line].filterMap Call.line? = [line] := rfl
      -- The driven session is open, and so is the one that was called, once it is started.
      have hopened := phase_call_ne_unopened (phase_driven_ne_unopened settings
        (calls.filterMap Call.line?)) (.feed line)
      rw [hlines, driven_concat]
      rw [← ih] at hopened ⊢
      rw [start_of_phase_ne hopened]
      simp only [List.append_nil, List.append_assoc]
    | finish => exact absurd rfl h.2

/-- Behind the first end a session is done. It found and said what a transcript of the lines before
does. -/
theorem afterCalls_first_finish (settings : Settings) (h : .finish ∉ calls) :
    (afterCalls settings (calls ++ [.finish])).1.phase = .done ∧
      (afterCalls settings (calls ++ [.finish])).1.result =
        (transcript settings (calls.filterMap Call.line?)).result ∧
      (afterCalls settings (calls ++ [.finish])).2 =
        (transcript settings (calls.filterMap Call.line?)).messages := by
  obtain ⟨hresult, hmessages⟩ := transcript_eq_driven settings (calls.filterMap Call.line?)
  rw [hresult, hmessages, ← opened_afterCalls h, afterCalls_concat, call_eq_start_call]
  exact ⟨phase_finish _, rfl, (List.append_assoc _ _ _).symm⟩

/-- Behind any calls with an end among them a session found and said what a transcript of the lines
before the first end does. -/
theorem afterCalls_of_finish_mem (settings : Settings) (h : .finish ∈ calls) :
    (afterCalls settings calls).1.result =
        (transcript settings (linesBeforeFinish calls)).result ∧
      (afterCalls settings calls).2 =
        (transcript settings (linesBeforeFinish calls)).messages := by
  obtain ⟨before, behind, rfl, hbefore⟩ := List.eq_append_cons_of_mem h
  obtain ⟨hdone, hresult, hmessages⟩ := afterCalls_first_finish settings hbefore
  have hsplit : before ++ .finish :: behind = before ++ [.finish] ++ behind := by simp
  rw [linesBeforeFinish_of_not_mem hbefore, hsplit, afterCalls_append_of_done hdone]
  exact ⟨hresult, hmessages⟩

theorem linesBeforeFinish_append (h : .finish ∈ calls) (more : List Call) :
    linesBeforeFinish (calls ++ more) = linesBeforeFinish calls := by
  obtain ⟨before, behind, rfl, hbefore⟩ := List.eq_append_cons_of_mem h
  rw [List.append_assoc, List.cons_append, linesBeforeFinish_of_not_mem hbefore,
    linesBeforeFinish_of_not_mem hbefore]

end Session

/-- **Steps and transcripts agree.** A session that is called in any way and finished at least once
has said what it says when it is driven through the lines fed before its first end, refused ones
among them. Each time that it is finished it gives the result of that transcript. -/
theorem calls_agree_with_transcript (settings : Session.Settings) (calls : List Session.Call)
    (h : .finish ∈ calls) :
    (Session.afterCalls settings calls).2 =
        (Session.transcript settings (Session.linesBeforeFinish calls)).messages ∧
      ∀ before behind, calls = before ++ .finish :: behind →
        (Session.afterCalls settings before).1.finish.1.result =
          (Session.transcript settings (Session.linesBeforeFinish calls)).result := by
  refine ⟨(Session.afterCalls_of_finish_mem settings h).2, ?_⟩
  rintro before behind rfl
  have hmem : Session.Call.finish ∈ before ++ [.finish] := by simp
  have hfinish := (Session.afterCalls_of_finish_mem settings hmem).1
  rw [Session.afterCalls_concat, ← Session.linesBeforeFinish_append hmem behind,
    List.append_assoc] at hfinish
  exact hfinish

/-- The session is opened by its first line, refuses the line behind the expression, and is finished
twice with a refused line between. -/
theorem calls_agree_with_transcript_refused :
    Session.Call.finish ∈ [.feed "bin x 1;", .start, .feed "END", .feed "x", .feed "late", .finish,
      .feed "later", .finish] ∧
      (Session.afterCalls {} [.feed "bin x 1;", .start, .feed "END", .feed "x", .feed "late",
        .finish, .feed "later", .finish]).2 =
        ["Enter variable declarations (example: bin var1 1010;), finish with 'END'",
          "Variable x declared successfully.", "Enter an expression to analyze:",
          "Valid expression."] ∧
      (Session.afterCalls {} [.feed "bin x 1;", .start, .feed "END", .feed "x", .feed "late",
        .finish, .feed "later"]).1.finish.1.result =
        (Session.transcript {} ["bin x 1;", "END", "x", "late"]).result := by
  have hmem : Session.Call.finish ∈ [.feed "bin x 1;", .start, .feed "END", .feed "x",
      .feed "late", .finish, .feed "later", .finish] := by decide
  obtain ⟨hmessages, hresult⟩ := calls_agree_with_transcript {} _ hmem
  exact ⟨hmem, hmessages.trans (by decide +kernel), hresult _ [] rfl⟩

end Numeral
