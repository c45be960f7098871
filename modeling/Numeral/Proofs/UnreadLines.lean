import Numeral.Proofs.CheckListing
import Numeral.Proofs.LineEnds

/-!
# Nothing behind the expression is read

A session takes the lines up to the first sentinel and the one behind it, which is the expression.
What stands further on in its input is not asked for, and bears on nothing that is said or found.

- `exists_plainLines_append`: a text that ends with a line end keeps its lines when it goes on.
- `Session.lines_transcript`, `Session.transcript_append`: which lines a session takes and leaves.
- `Session.Settings.AgreeUpToExpression`: lines that are the same up to the expression.
- `Session.drive`, `Session.drive_eq`: a session that pulls its lines one by one, through a lister.
- `Check.Invocation.run_eq_of_front`: the check command on texts that go on differently.
- `nothing_read_behind_expression`: all of this together.
-/

namespace Numeral

/-! ## Texts that are cut behind a line -/

section Lines

variable {front rest : List Char} {c : Char}

private theorem behind_lineEnd_tail (hend : ∀ d ∈ (c :: front).getLast?, isPlainLineEnd d = true) :
    ∀ d ∈ front.getLast?, isPlainLineEnd d = true := by
  cases front with
  | nil => simp
  | cons d front => rwa [List.getLast?_cons_cons] at hend

/-- Behind a line end, what a text goes on with adds lines and changes none. A line feed behind a
carriage return adds none. -/
theorem exists_splitLines_append (hend : ∀ c ∈ front.getLast?, isPlainLineEnd c = true)
    (rest : List Char) :
    ∃ more, splitLines isPlainLineEnd (front ++ rest) =
      splitLines isPlainLineEnd front ++ more := by
  induction hn : front.length using Nat.strong_induction_on generalizing front with
  | _ n ih =>
    subst hn
    cases front with
    | nil => exact ⟨_, rfl⟩
    | cons c cs =>
      rw [List.cons_append]
      have htail := behind_lineEnd_tail hend
      obtain ⟨more, hmore⟩ := ih cs.length (by simp) htail rfl
      cases hc : isPlainLineEnd c with
      | false =>
        -- The text ends with a line end, so that the line of `c` goes on.
        have hne : cs ≠ [] := by
          rintro rfl
          cases hc.symm.trans (hend c rfl)
        obtain ⟨line, lines, hlines⟩ := List.exists_cons_of_ne_nil (splitLines_ne_nil hne)
        refine ⟨more, ?_⟩
        rw [splitLines_cons hc, splitLines_cons hc, hmore, hlines]
        rfl
      | true =>
        by_cases hpair : c = '\r' ∧ (cs ++ rest).head? = some '\n'
        · obtain ⟨rfl, hhead⟩ := hpair
          cases cs with
          | nil =>
            -- The line feed at the head of `rest` belongs to the carriage return in front of it.
            obtain ⟨r, rfl⟩ := List.head?_eq_some_iff.mp hhead
            exact ⟨splitLines isPlainLineEnd r, splitLines_return_feed rfl r⟩
          | cons d cs =>
            cases hhead
            obtain ⟨more, hmore⟩ := ih cs.length (by simp) (behind_lineEnd_tail htail) rfl
            refine ⟨more, ?_⟩
            rw [List.cons_append, splitLines_return_feed rfl, splitLines_return_feed rfl, hmore]
            rfl
        · have hpair' : ¬ (c = '\r' ∧ cs.head? = some '\n') := fun h =>
            hpair ⟨h.1, by rw [List.head?_append, h.2]; rfl⟩
          refine ⟨more, ?_⟩
          rw [splitLines_lineEnd hc hpair, splitLines_lineEnd hc hpair', hmore]
          rfl

/-- A text ends with a line end. -/
def EndsLine (text : String) : Prop :=
  ∃ c ∈ text.toList.getLast?, isPlainLineEnd c = true

/-- A text that ends with a line end keeps its lines when it goes on. -/
theorem exists_plainLines_append {front : String} (h : EndsLine front) (rest : String) :
    ∃ more, plainLines (front ++ rest) = plainLines front ++ more := by
  obtain ⟨c, hlast, hc⟩ := h
  obtain ⟨more, hmore⟩ := exists_splitLines_append
    (fun d hd => by rwa [Option.mem_unique hd hlast]) rest.toList
  exact ⟨more.map String.ofList, by
    rw [plainLines, String.toList_append, hmore, List.map_append, plainLines]⟩

end Lines

namespace Session

variable {s : Session} {settings : Settings} {lines front before : List String}

/-! ## Lines taken and lines left -/

/-- Every line is taken or left. -/
theorem lines_feedAll (s : Session) (lines : List String) :
    (s.feedAll lines).2.1.map (·.line) ++ (s.feedAll lines).2.2 = lines := by
  induction lines generalizing s with
  | nil => rfl
  | cons line lines ih =>
    rw [feedAll]
    cases s.advance line with
    | error err => rfl
    | ok r => exact congrArg (line :: ·) (ih r.1)

/-- A session that is done behind some lines leaves all further ones. -/
theorem feedAll_append_of_done (h : (s.feedAll front).1.phase = .done) (rest : List String) :
    s.feedAll (front ++ rest) =
      ((s.feedAll front).1, (s.feedAll front).2.1, (s.feedAll front).2.2 ++ rest) := by
  induction front generalizing s with
  | nil => exact feedAll_eq_of_done h rest
  | cons line front ih =>
    rw [List.cons_append, feedAll]
    rw [feedAll] at h ⊢
    cases hadvance : s.advance line with
    | error err => rfl
    | ok r =>
      rw [hadvance] at h
      simp only [ih h]

/-- The lines that a transcript takes are those up to the first sentinel and the one behind it. -/
theorem lines_transcript (settings : Settings) (lines : List String) :
    (transcript settings lines).exchanges.map (·.line) = settings.linesTaken lines ∧
      (transcript settings lines).left = lines.drop (lines.idxOf settings.sentinel + 2) := by
  have htaken : (transcript settings lines).exchanges.map (·.line) = settings.linesTaken lines := by
    rw [exchanges_transcript]
    exact List.ext_getElem (by simp) fun i _ _ => by simp
  refine ⟨htaken, ?_⟩
  have hlines : (transcript settings lines).exchanges.map (·.line) ++
      (transcript settings lines).left = lines := lines_feedAll _ _
  rw [htaken, Settings.linesTaken] at hlines
  exact List.append_cancel_left (hlines.trans (List.take_append_drop _ lines).symm)

/-- Behind the line that follows the first sentinel a session is done, and that line is taken. -/
theorem feedAll_expression (hbefore : settings.sentinel ∉ before) (e : String) :
    ((ofSettings settings).start.1.feedAll (before ++ [settings.sentinel, e])).1.phase = .done ∧
      ((ofSettings settings).start.1.feedAll (before ++ [settings.sentinel, e])).2.2 = [] := by
  constructor
  · obtain ⟨s, hs, hrest⟩ := (hasTaken_ofSettings settings).start.feedAll hbefore
    rw [hrest, feedAll_sentinel hs]
    rfl
  · refine (lines_transcript settings (before ++ [settings.sentinel, e])).2.trans ?_
    rw [List.idxOf_append_of_notMem hbefore, List.idxOf_cons_self, Nat.add_zero]
    exact List.drop_of_length_le (by simp)

/-- The lines behind the expression are left, and bear on nothing else. -/
theorem feedAll_append_expression (hbefore : settings.sentinel ∉ before) (e : String)
    (rest : List String) :
    (ofSettings settings).start.1.feedAll (before ++ [settings.sentinel, e] ++ rest) =
      (((ofSettings settings).start.1.feedAll (before ++ [settings.sentinel, e])).1,
        ((ofSettings settings).start.1.feedAll (before ++ [settings.sentinel, e])).2.1, rest) := by
  obtain ⟨hdone, hleft⟩ := feedAll_expression hbefore e
  rw [feedAll_append_of_done hdone, hleft, List.nil_append]

theorem transcript_append (hbefore : settings.sentinel ∉ before) (e : String)
    (rest : List String) :
    transcript settings (before ++ [settings.sentinel, e] ++ rest) =
      { transcript settings (before ++ [settings.sentinel, e]) with left := rest } := by
  simp only [transcript, feedAll_append_expression hbefore]

/-- The lines up to the one behind the first sentinel, if there is one. -/
private theorem exists_eq_of_idxOf_lt {sentinel : String}
    (h : lines.idxOf sentinel + 1 < lines.length) :
    ∃ before e, lines.take (lines.idxOf sentinel + 2) = before ++ [sentinel, e] ∧
      sentinel ∉ before := by
  obtain ⟨before, behind, rfl, hbefore⟩ :=
    List.eq_append_cons_of_mem (List.idxOf_lt_length_iff.mp (Nat.lt_of_succ_lt h))
  rw [List.idxOf_append_of_notMem hbefore, List.idxOf_cons_self, Nat.add_zero] at h ⊢
  cases behind with
  | nil => simp at h
  | cons e rest =>
    exact ⟨before, e, by simp [List.take_append], hbefore⟩

/-! ## Lines that agree up to the expression -/

/-- The expression is among `lines`, behind the first sentinel, and `other` has the same lines up to
it. -/
def Settings.AgreeUpToExpression (settings : Settings) (lines other : List String) : Prop :=
  lines.idxOf settings.sentinel + 1 < lines.length ∧
    settings.linesTaken lines = other.take (lines.idxOf settings.sentinel + 2)

section Agree

variable {other : List String}

theorem Settings.AgreeUpToExpression.feedAll_eq (h : settings.AgreeUpToExpression lines other) :
    (ofSettings settings).start.1.feedAll other =
      (((ofSettings settings).start.1.feedAll lines).1,
        ((ofSettings settings).start.1.feedAll lines).2.1,
        other.drop (lines.idxOf settings.sentinel + 2)) := by
  obtain ⟨hlt, htaken⟩ := h
  obtain ⟨before, e, htake, hbefore⟩ := exists_eq_of_idxOf_lt hlt
  have hfront (more : List String)
      (hmore : more.take (lines.idxOf settings.sentinel + 2) = before ++ [settings.sentinel, e]) :
      (ofSettings settings).start.1.feedAll more =
        (((ofSettings settings).start.1.feedAll (before ++ [settings.sentinel, e])).1,
          ((ofSettings settings).start.1.feedAll (before ++ [settings.sentinel, e])).2.1,
          more.drop (lines.idxOf settings.sentinel + 2)) := by
    rw [← feedAll_append_expression hbefore, ← hmore, List.take_append_drop]
  rw [hfront lines htake, hfront other (htaken.symm.trans htake)]

theorem Settings.AgreeUpToExpression.transcript_eq
    (h : settings.AgreeUpToExpression lines other) :
    transcript settings other =
      { transcript settings lines with
        left := other.drop (lines.idxOf settings.sentinel + 2) } := by
  simp only [transcript, h.feedAll_eq]

end Agree

/-! ## Lines that are pulled one by one -/

section Drive

variable {σ : Type}

/-- Pulls a line, hands it to a lister, which has a state and may print something, and feeds the
session with it, until the session is done or the lines run out. Gives the session, all that is
printed, and the lines that were not pulled. -/
def drive (lister : σ → String → σ × List String) (state : σ) (s : Session) :
    List String → Except FeedError (Session × List String × List String)
  | [] => .ok (s, [], [])
  | line :: lines =>
    let (state, listed) := lister state line
    match s.feed line with
    | .error e => .error e
    | .ok (next, messages) =>
      if next.isDone then .ok (next, listed ++ messages, lines)
      else (drive lister state next lines).map fun (last, printed, left) =>
        (last, listed ++ messages ++ printed, left)

/-- What a lister prints for each line taken, with the messages about the line behind it. -/
def printedInTurns (lister : σ → String → σ × List String) : σ → List Exchange → List String
  | _, [] => []
  | state, x :: xs =>
    (lister state x.line).2 ++ x.messages ++ printedInTurns lister (lister state x.line).1 xs

/-- **Pulling lines.** No line is refused, whatever the lister does. The lines that a session takes
are pulled and no others, and for each of them the lister and the session print in turns. -/
theorem drive_eq (lister : σ → String → σ × List String) (state : σ)
    (hopened : s.phase ≠ .unopened) (hphase : s.phase ≠ .done) (lines : List String) :
    s.drive lister state lines =
      .ok ((s.feedAll lines).1, printedInTurns lister state (s.feedAll lines).2.1,
        (s.feedAll lines).2.2) := by
  induction lines generalizing s state with
  | nil => rfl
  | cons line lines ih =>
    cases hadvance : s.advance line with
    | error e => exact absurd (phase_of_advance_error hadvance) hphase
    | ok r =>
      have hfeed : s.feed line = .ok r := by
        rw [feed_eq, start_of_phase_ne hopened, hadvance]
        rfl
      have hnext : r.1.phase ≠ .unopened := by
        have hcall := phase_call_ne_unopened hopened (.feed line)
        rwa [call_feed_of_opened hopened, hadvance] at hcall
      rw [drive, hfeed, feedAll, hadvance]
      by_cases hdone : r.1.phase = .done
      · simp [isDone, hdone, feedAll_eq_of_done hdone, printedInTurns]
      · simp [isDone, hdone, ih (lister state line).1 hnext hdone, Except.map, printedInTurns]

end Drive

end Session

namespace Command.Check

/-! ## Texts that agree up to the expression -/

/-- Calls on texts that go on differently behind the line of the expression report the same. -/
theorem Invocation.run_eq_of_front {i j : Invocation} {s : Settings} {front rest other : String}
    {before : List String} {e : String} (hi : settings i.arguments = .ok s)
    (hj : settings j.arguments = .ok s) (hterminal : i.isTerminal = j.isTerminal)
    (hends : EndsLine front) (hfront : plainLines front = before ++ [s.sentinel, e])
    (hbefore : s.sentinel ∉ before) (hinput : i.HasInput s (front ++ rest))
    (hinput' : j.HasInput s (front ++ other)) : i.run = j.run := by
  by_cases hempty : s.sentinel = ""
  · have hrefused (isTerminal : Bool) : s.sessionSettings isTerminal = .error .emptySentinel :=
      dif_pos hempty
    simp only [run, Check.run, hi, hj, hrefused]
  · obtain ⟨options, hoptions, hsentinel⟩ := Settings.exists_sessionSettings hempty i.isTerminal
    obtain ⟨more, hmore⟩ := exists_plainLines_append hends rest
    obtain ⟨more', hmore'⟩ := exists_plainLines_append hends other
    rw [← hsentinel] at hfront hbefore
    rw [hinput.run_eq hi hoptions, hinput'.run_eq hj (hterminal ▸ hoptions), hmore, hmore', hfront,
      Session.transcript_append hbefore, Session.transcript_append hbefore]
    rfl

end Command.Check

open Command.Check in
/-- **Nothing behind the expression is read.** A session takes the lines up to the one behind the
first sentinel and leaves the others; without such a line it takes all. On other lines that agree up
to the expression it says and finds the same. So it is where the lines are pulled one by one,
through any lister that may print something for each: none is refused, the lines that are left are
not even pulled, and what is printed does not depend on them. And two calls of the command with the
same settings report the same, output and status, on texts that go on differently behind the end of
the line of the expression. -/
theorem nothing_read_behind_expression :
    (∀ (settings : Session.Settings) (lines : List String),
      let k := lines.idxOf settings.sentinel
      let t := Session.transcript settings lines
      (k + 1 < lines.length →
        t.exchanges.map (·.line) = lines.take (k + 2) ∧ t.left = lines.drop (k + 2)) ∧
      (lines.length ≤ k + 1 → t.exchanges.map (·.line) = lines ∧ t.left = []) ∧
      (∀ other, settings.AgreeUpToExpression lines other →
        Session.transcript settings other = { t with left := other.drop (k + 2) }) ∧
      ∀ (σ : Type) (lister : σ → String → σ × List String) (state : σ),
        let opened := (Session.ofSettings settings).start.1
        let last := (Session.driven settings lines).1
        let printed := Session.printedInTurns lister state t.exchanges
        opened.drive lister state lines = .ok (last, printed, t.left) ∧
        ∀ other, settings.AgreeUpToExpression lines other →
          opened.drive lister state other = .ok (last, printed, other.drop (k + 2))) ∧
    ∀ (i j : Invocation) (s : Settings) (front : String) (before : List String) (e : String),
      Command.Check.settings i.arguments = .ok s → Command.Check.settings j.arguments = .ok s →
      i.isTerminal = j.isTerminal → EndsLine front →
      plainLines front = before ++ [s.sentinel, e] → s.sentinel ∉ before →
      ∀ rest other : String, i.HasInput s (front ++ rest) → j.HasInput s (front ++ other) →
        i.run = j.run := by
  refine ⟨fun settings lines => ?_, fun i j s front before e hi hj hterminal hends hfront hbefore
    rest other hinput hinput' =>
    Invocation.run_eq_of_front hi hj hterminal hends hfront hbefore hinput hinput'⟩
  intro k t
  obtain ⟨htaken, hleft⟩ := Session.lines_transcript settings lines
  refine ⟨fun _ => ⟨htaken, hleft⟩, fun hle => ?_, fun other h => h.transcript_eq, ?_⟩
  · have hlength : lines.length ≤ k + 2 := Nat.le_succ_of_le hle
    exact ⟨htaken.trans (List.take_of_length_le hlength),
      hleft.trans (List.drop_of_length_le hlength)⟩
  · intro σ lister state opened last printed
    have hdrive (more : List String) : opened.drive lister state more =
        .ok ((opened.feedAll more).1,
          Session.printedInTurns lister state (opened.feedAll more).2.1,
          (opened.feedAll more).2.2) :=
      Session.drive_eq lister state (Session.ofSettings settings).phase_start_ne_unopened
        Session.Phase.noConfusion more
    refine ⟨hdrive lines, fun other h => ?_⟩
    rw [hdrive other, h.feedAll_eq]
    rfl

/-- The line of the expression ends with a carriage return. In one text a line feed stands behind
it, in the other one more declaration. -/
theorem nothing_read_behind_expression_return :
    let front := "bin x 1;\nEND\r\nx + y\r"
    let call := fun text : String => ({
      arguments := ["--dump-tokens", "s.txt", "--report-all"]
      files := ⟨[(["home"], .directory), (["home", "s.txt"], .file (Utf8.encode text))], ["home"]⟩
      standardInput := ""
      isTerminal := true } : Command.Check.Invocation)
    plainLines front = ["bin x 1;"] ++ ["END", "x + y"] ∧
      plainLines (front ++ "\nEND\n") ≠ plainLines (front ++ "hex y 1F;") ∧
      (call (front ++ "\nEND\n")).run = (call (front ++ "hex y 1F;")).run ∧
      (call (front ++ "hex y 1F;")).run.ending = .status 1 := by
  intro front call
  let s : Command.Check.Settings :=
    { input := some ⟨"", ["s.txt"]⟩, reportAll := true, listTokens := true }
  have hsettings : Command.Check.settings ["--dump-tokens", "s.txt", "--report-all"] = .ok s := by
    decide +kernel
  have hlines : plainLines front = ["bin x 1;"] ++ ["END", "x + y"] := by decide +kernel
  have hinput (text : String) : (call text).HasInput s text := rfl
  refine ⟨hlines, by decide +kernel, ?_, by decide +kernel⟩
  exact nothing_read_behind_expression.2 _ _ s front ["bin x 1;"] "x + y" hsettings hsettings
    rfl ⟨'\r', by decide +kernel, rfl⟩ hlines (by decide) _ _ (hinput _) (hinput _)

end Numeral
