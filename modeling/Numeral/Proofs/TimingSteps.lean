import Numeral.Command.Timing
import Numeral.Proofs.BinaryGrid
import Numeral.Proofs.GeneratedLines
import Numeral.Proofs.LineFaults

/-!
# The timing command step by step

A benchmark seeds its generator, draws its lines, judges them between two readings of a clock while
a progress bar is shown, and prints its report line by line. Here it is a program of such steps, in
which everything that can stop it stands where it is done: a seed that the generator refuses, a
choice among nothing, a check of the scanner or of the grammar, a progress bar that breaks off, a
reading that is no number of the format, and the two divisions of the report. What has been printed
or written stays.

How often an earlier name is drawn is left to any function of the numbers drawn, so that the rate
and the precision of the fractions do not matter. Of the generator it is relied on that it takes
every integer as a seed, and of the progress bar that it hands on its lines
(`Environment.IsReliable`).

- `fullReport`, `report_eq`: a report breaks off iff no time has passed.
- `Bench`, `Steps.program`: what a benchmark works on, and its program.
- `Steps.run_generate`: nothing stops the drawing, and what is drawn is possible.
- `Steps.judgeAll_eq`: nothing stops the judging, and its tally is that of the lines.
- `Steps.run_report`, `Steps.run_program`: what the program prints, and where it stops.
- `run_of_refused_seed`: a seed that the generator refuses stops the command in front of its report.
- `report_completes_iff`: with a seed that is an integer, the command prints its whole report iff
  the clock has moved, whatever is drawn.
-/

namespace Numeral

namespace Benchmark

/-! ## Reports -/

section Report

variable {gs : List Generated} {start stop a b : Rat}

/-- All lines of a report. -/
def fullReport (lines : Nat) (tally : Tally) (seconds : Binary64) : List String :=
  reportHead lines tally seconds ++
    ["Lines/s: " ++ (linesPerSecond lines seconds).toFixed 1,
      "us/line: " ++ (microsPerLine lines seconds).toFixed 2]

/-- A report breaks off iff no time has passed, in front of the first division. -/
theorem report_eq (ha : Binary64.ofQuotient start = .ok a) (hb : Binary64.ofQuotient stop = .ok b)
    (lines : Nat) (tally : Tally) :
    report lines tally (.ofRat (b - a)) =
      if a = b then (reportHead lines tally (.ofRat (b - a)), some .divisionByZero)
      else (fullReport lines tally (.ofRat (b - a)), none) := by
  simp only [report, Binary64.toRat?_ofRat_sub_eq_zero_iff ha hb]
  rfl

/-- The tally of declarations that were drawn: no line is malformed. -/
def drawnTally (gs : List Generated) : Tally :=
  ⟨gs.countP (·.isFresh), 0, gs.length - gs.countP (·.isFresh)⟩

theorem ofLines_of_arePossible (h : ArePossible 0 [] gs) :
    Tally.ofLines (gs.map Generated.line) = drawnTally gs := by
  have hempty : DeclaresBefore .empty 0 [] := ⟨rfl, fun name hname => nomatch hname⟩
  rw [Tally.ofLines_eq, h.outcomes_eq hempty, Tally.ofOutcomes_map_outcome, drawnTally]

end Report

/-! ## The program -/

/-- What a benchmark works on: the numbers that are drawn, the lines printed so far, and what was
written to the errors. -/
structure Bench where
  draws : Draws
  printed : List String
  errors : String

/-- Why the program stops. -/
inductive Halt where
  | noSeed
  | emptyChoice
  | fault (fault : Fault)
  | clock (error : Binary64.QuotientError)
  | progress (fault : String)
  | divisionByZero
  deriving DecidableEq, Repr

/-- A step on what the benchmark works on. When it stops, what has been printed or written stays. -/
abbrev Act := EStateM Halt Bench

namespace Steps

/-- Goes on with what a check gives, or stops. -/
def require {α : Type} : Except Halt α → Act α
  | .ok a => pure a
  | .error e => throw e

/-- Seeds the generator. -/
def seedGenerator (e : Environment) (seed : Option Int) : Act Unit :=
  match e.generator seed with
  | some draws => modify fun m => { m with draws := draws }
  | none => throw .noSeed

/-- Draws something, which always gives a result. -/
def drawing {α : Type} (f : Draws → α × Draws) : Act α := fun m =>
  .ok (f m.draws).1 { m with draws := (f m.draws).2 }

/-- Chooses one of `choices`, which must not be empty. -/
def choose {α : Type} (choices : Array α) : Act α :=
  if h : 0 < choices.size then drawing (Draws.choose choices h) else throw .emptyChoice

/-- Draws digits, one by one. -/
def digits (base : Base) : Nat → Act (List Char)
  | 0 => return []
  | count + 1 => do
    let digit ← choose base.alphabet
    let digits ← digits base count
    return digit :: digits

/-- Draws a value. -/
def value (base : Base) : Act (List Char) := do
  let first ← choose #['0', '1']
  let count ← drawing (Draws.below 16)
  let digits ← digits base count
  return first :: digits

/-- Draws a name, and whether it is fresh. An earlier name is drawn where the number drawn counts. -/
def name (counts : Nat → Bool) (index : Nat) (names : Array String) : Act (String × Bool) :=
  if names.isEmpty then return (freshName index, true)
  else do
    let n ← drawing Draws.next
    if counts n then
      let earlier ← choose names
      return (earlier, false)
    else return (freshName index, true)

/-- Draws a declaration. -/
def declaration (counts : Nat → Bool) (index : Nat) (names : Array String) : Act Generated := do
  let base ← choose #[Base.bin, Base.oct, Base.hex]
  let (name, isFresh) ← name counts index names
  let value ← value base
  let parts ← drawing (Draws.below Draws.fractionParts)
  return { base, name, isFresh, value, isUpperCase := 2 * parts < Draws.fractionParts }

/-- Draws declarations. -/
def generate (counts : Nat → Bool) : Nat → Nat → Array String → Act (List Generated)
  | 0, _, _ => return []
  | count + 1, index, names => do
    let g ← declaration counts index names
    let gs ← generate counts count (index + 1) (if g.isFresh then names.push g.name else names)
    return g :: gs

/-- Judges a line. -/
def judge (line : String) (scope : Scope) : Act (Declaration.Verdict × Scope) := do
  let line ← require ((Line.ofTextChecked line).mapError .fault)
  require ((Declaration.judgeChecked line.tokens scope).mapError .fault)

/-- Judges lines and counts their outcomes. -/
def judgeAll (scope : Scope) (tally : Tally) : List String → Act Tally
  | [] => return tally
  | line :: lines => do
    let (verdict, scope) ← judge line scope
    judgeAll scope (tally.add verdict.outcome) lines

/-- Reads the clock. -/
def readClock (reading : Rat) : Act Rat :=
  require ((Binary64.ofQuotient reading).mapError .clock)

/-- Writes to the errors. -/
def write (text : String) : Act Unit :=
  modify fun m => { m with errors := m.errors ++ text }

/-- Breaks off if a progress bar has. -/
def breakOff : Option String → Act Unit
  | some fault => throw (.progress fault)
  | none => return

/-- Judges the lines of a progress bar between two readings of the clock. The bar is set up before
the first; what it writes while its lines are taken, and its fault if it has one, come behind them. -/
def time (bar : Progress) (start stop : Rat) : Act (Binary64 × Tally) := do
  write bar.opening
  let start ← readClock start
  let tally ← judgeAll .empty .zero bar.handedOn.lines
  write bar.running
  breakOff bar.handedOn.fault
  let stop ← readClock stop
  return (.ofRat (stop - start), tally)

/-- Prints a line. -/
def print (line : String) : Act Unit :=
  modify fun m => { m with printed := m.printed ++ [line] }

/-- Lines per second, which is a division by the time. -/
def linesPerSecond (lines : Nat) (seconds : Binary64) : Except Halt Binary64 :=
  if seconds.toRat? = some 0 then .error .divisionByZero
  else .ok (Benchmark.linesPerSecond lines seconds)

/-- Microseconds per line, which is a division by the number of lines. -/
def microsPerLine (lines : Nat) (seconds : Binary64) : Except Halt Binary64 :=
  if lines = 0 then .error .divisionByZero else .ok (Benchmark.microsPerLine lines seconds)

/-- Prints the report. -/
def report (lines : Nat) (tally : Tally) (seconds : Binary64) : Act Nat := do
  (reportHead lines tally seconds).forM print
  let speed ← require (linesPerSecond lines seconds)
  print ("Lines/s: " ++ speed.toFixed 1)
  let cost ← require (microsPerLine lines seconds)
  print ("us/line: " ++ cost.toFixed 2)
  return 0

/-- The program of the benchmark of `count` lines. Its result is the exit status. -/
def program (e : Environment) (s : Command.Timing.Settings) (counts : Nat → Bool) (count : Nat) :
    Act Nat := do
  seedGenerator e s.seed
  let gs ← generate counts count 0 #[]
  let lines := gs.map Generated.line
  let (seconds, tally) ← time (s.progress e lines) e.start e.stop
  report lines.length tally seconds

/-! ## Drawing -/

section Drawing

variable {α : Type}

theorem choose_eq {choices : Array α} (h : 0 < choices.size) :
    choose choices = drawing (Draws.choose choices h) :=
  dif_pos h

theorem run_seedGenerator {e : Environment} {seed : Option Int} {draws : Draws}
    (h : e.generator seed = some draws) (m : Bench) :
    (seedGenerator e seed).run m = .ok () { m with draws := draws } := by
  rw [seedGenerator, h]
  rfl

theorem run_seedGenerator_of_none {e : Environment} {seed : Option Int}
    (h : e.generator seed = none) (m : Bench) :
    (seedGenerator e seed).run m = .error .noSeed m := by
  rw [seedGenerator, h]
  rfl

theorem run_drawing (f : Draws → α × Draws) (m : Bench) :
    (drawing f).run m = .ok (f m.draws).1 { m with draws := (f m.draws).2 } :=
  rfl

private theorem digits_eq (base : Base) (count : Nat) :
    digits base count = drawing (drawDigits base count) := by
  induction count with
  | zero => rfl
  | succ count ih =>
    rw [digits, choose_eq base.alphabet_size_pos, ih]
    rfl

private theorem value_eq (base : Base) : value base = drawing (drawValue base) := by
  have hpos : 0 < #['0', '1'].size := by simp
  rw [value, choose_eq hpos]
  simp only [digits_eq]
  rfl

/-- The numbers drawn that count at a rate. -/
def countsAt (rate : Rate) (n : Nat) : Bool :=
  rate.admits (n % Draws.fractionParts)

/-- An earlier name is chosen only where there is one. -/
theorem run_name (counts : Nat → Bool) (index : Nat) (names : Array String) (m : Bench) :
    ∃ drawn draws, (name counts index names).run m = .ok drawn { m with draws := draws } ∧
      (drawn.2 = true ∧ drawn.1 = freshName index ∨ drawn.2 = false ∧ drawn.1 ∈ names.toList) ∧
      ∀ rate, counts = countsAt rate → drawName rate index names m.draws = (drawn, draws) := by
  by_cases hnames : 0 < names.size
  · have hempty : ¬ names.isEmpty = true := by simpa [Array.isEmpty] using hnames.ne'
    rw [name, if_neg hempty, run_bind_of_ok (run_drawing Draws.next m), choose_eq hnames]
    by_cases hcounts : counts m.draws.next.1 = true
    · rw [if_pos hcounts]
      refine ⟨_, _, rfl, .inr ⟨rfl, Array.mem_toList_iff.mpr (Draws.choose_mem hnames _)⟩, ?_⟩
      rintro rate rfl
      rw [drawName, dif_pos hnames]
      exact if_pos hcounts
    · rw [if_neg hcounts]
      refine ⟨_, _, rfl, .inl ⟨rfl, rfl⟩, ?_⟩
      rintro rate rfl
      rw [drawName, dif_pos hnames]
      exact if_neg hcounts
  · have hempty : names.isEmpty = true := by simpa [Array.isEmpty] using hnames
    rw [name, if_pos hempty]
    refine ⟨_, _, rfl, .inl ⟨rfl, rfl⟩, fun rate _ => ?_⟩
    rw [drawName, dif_neg hnames]

theorem run_declaration (counts : Nat → Bool) (index : Nat) (names : Array String) (m : Bench) :
    ∃ g draws, (declaration counts index names).run m = .ok g { m with draws := draws } ∧
      g.IsPossible index names.toList ∧
      ∀ rate, counts = countsAt rate → drawDeclaration rate index names m.draws = (g, draws) := by
  have hpos : 0 < #[Base.bin, Base.oct, Base.hex].size := by simp
  let base := Draws.choose #[Base.bin, Base.oct, Base.hex] hpos m.draws
  obtain ⟨drawn, draws, hrun, hname, hrate⟩ :=
    run_name counts index names { m with draws := base.2 }
  rw [declaration, choose_eq hpos, run_bind_of_ok (run_drawing _ m), run_bind_of_ok hrun, value_eq,
    run_bind_of_ok (run_drawing _ _), run_bind_of_ok (run_drawing _ _)]
  refine ⟨_, _, rfl, ⟨hname, drawValue_spec _ _⟩, fun rate hcounts => ?_⟩
  have hdrawn : drawName rate index names base.2 = (drawn, draws) := hrate rate hcounts
  unfold drawDeclaration
  dsimp only
  rw [hdrawn]

/-- **Drawing.** Nothing stops the drawing of lines. As many are drawn as asked for, and all of them
are possible. At a rate they are those that the stream gives. -/
theorem run_generate (counts : Nat → Bool) (count index : Nat) (names : Array String) (m : Bench) :
    ∃ gs draws, (generate counts count index names).run m = .ok gs { m with draws := draws } ∧
      ArePossible index names.toList gs ∧ gs.length = count ∧
      ∀ rate, counts = countsAt rate → generateFrom rate count index names m.draws = gs := by
  induction count generalizing index names m with
  | zero => exact ⟨_, _, rfl, .nil _ _, rfl, fun _ _ => rfl⟩
  | succ count ih =>
    obtain ⟨g, draws, hrun, hpossible, hrate⟩ := run_declaration counts index names m
    obtain ⟨gs, draws', hruns, hall, hlength, hrates⟩ := ih (index + 1)
      (if g.isFresh then names.push g.name else names) { m with draws := draws }
    refine ⟨g :: gs, draws', ?_, ?_, by rw [List.length_cons, hlength], fun rate hcounts => ?_⟩
    · rw [generate, run_bind_of_ok hrun, run_bind_of_ok hruns]
      rfl
    · rw [← namesBehind_toList] at hall
      exact .cons hpossible hall
    · rw [generateFrom, hrate rate hcounts]
      dsimp only
      rw [← hrates rate hcounts]

end Drawing

/-! ## Judging -/

section Judging

variable {lines : List String} {start stop a b : Rat}

theorem judge_eq (line : String) (scope : Scope) :
    judge line scope = pure (Declaration.judge (tokensOf line) scope) := by
  have hread : require ((Line.ofTextChecked line).mapError Halt.fault) =
      pure (Line.ofText line) := by
    rw [Line.ofTextChecked_eq]
    rfl
  rw [judge, hread, pure_bind, Declaration.judgeChecked_eq, Line.tokens_ofText]
  rfl

/-- **Judging.** Nothing stops the judging of lines. -/
theorem judgeAll_eq (scope : Scope) (tally : Tally) (lines : List String) :
    judgeAll scope tally lines = pure ((outcomes scope lines).foldl Tally.add tally) := by
  induction lines generalizing scope tally with
  | nil => rfl
  | cons line lines ih =>
    rw [judgeAll, judge_eq, pure_bind]
    exact ih _ _

private theorem foldl_add_zero (lines : List String) :
    (outcomes .empty lines).foldl Tally.add .zero = Tally.ofLines lines := by
  rw [Tally.foldl_add_eq, Tally.ofLines_eq, Tally.ofOutcomes]
  simp only [Tally.zero, Nat.zero_add]

private theorem readClock_eq {reading a : Rat} (ha : Binary64.ofQuotient reading = .ok a) :
    readClock reading = pure a := by
  rw [readClock, ha]
  rfl

theorem run_write (text : String) (m : Bench) :
    (write text).run m = .ok () { m with errors := m.errors ++ text } :=
  rfl

/-- A progress bar that hands on its lines only adds to the errors. -/
theorem run_time {bar : Progress} (hbar : bar.handedOn = { lines })
    (ha : Binary64.ofQuotient start = .ok a) (hb : Binary64.ofQuotient stop = .ok b) (m : Bench) :
    (time bar start stop).run m = .ok (.ofRat (b - a), Tally.ofLines lines)
      { m with errors := m.errors ++ (bar.opening ++ bar.running) } := by
  rw [time, run_bind_of_ok (run_write _ m), readClock_eq ha, pure_bind, judgeAll_eq, pure_bind,
    run_bind_of_ok (run_write _ _), hbar, readClock_eq hb, foldl_add_zero, ← String.append_assoc]
  rfl

end Judging

/-! ## Reporting -/

section Reporting

theorem run_print (line : String) (m : Bench) :
    (print line).run m = .ok () { m with printed := m.printed ++ [line] } :=
  rfl

theorem run_forM_print (lines : List String) (m : Bench) :
    (lines.forM print).run m = .ok () { m with printed := m.printed ++ lines } := by
  induction lines generalizing m with
  | nil => simp
  | cons line lines ih =>
    have hsteps : (line :: lines).forM print = (do print line; lines.forM print) := rfl
    rw [hsteps, run_bind_of_ok (run_print line m), ih, List.append_assoc]
    rfl

/-- The program prints the report of some lines, and breaks off where that does. -/
theorem run_report {lines : Nat} (hlines : lines ≠ 0) (tally : Tally) (seconds : Binary64)
    (m : Bench) :
    (report lines tally seconds).run m =
      match Benchmark.report lines tally seconds with
      | (printed, none) => .ok 0 { m with printed := m.printed ++ printed }
      | (printed, some _) => .error .divisionByZero { m with printed := m.printed ++ printed } := by
  rw [report, Benchmark.report, run_bind_of_ok (run_forM_print _ m), linesPerSecond]
  by_cases hzero : seconds.toRat? = some 0
  · rw [if_pos hzero, if_pos hzero]
    rfl
  · rw [if_neg hzero, if_neg hzero, microsPerLine, if_neg hlines]
    simp [require, print]

end Reporting

/-! ## The whole program -/

section Program

variable {e : Environment} {s : Command.Timing.Settings} {draws : Draws} {a b : Rat}

theorem handedOn_progress (he : e.IsReliable) (s : Command.Timing.Settings) (lines : List String) :
    (s.progress e lines).handedOn = { lines } := by
  rw [Command.Timing.Settings.progress]
  split
  · exact he.handsOn lines
  · rfl

/-- **Steps.** Whatever is drawn, the program prints the whole report unless no time has passed. -/
theorem run_program (he : e.IsReliable) (hdraws : e.generator s.seed = some draws)
    (ha : Binary64.ofQuotient e.start = .ok a) (hb : Binary64.ofQuotient e.stop = .ok b)
    (counts : Nat → Bool) {count : Nat} (hcount : count ≠ 0) (m : Bench) :
    ∃ gs draws', ArePossible 0 [] gs ∧ gs.length = count ∧
      (∀ rate, counts = countsAt rate → Benchmark.generate rate count draws = gs) ∧
      let seconds := Binary64.ofRat (b - a)
      let bar := s.progress e (gs.map Generated.line)
      let errors := m.errors ++ (bar.opening ++ bar.running)
      (program e s counts count).run m =
        if a = b then .error .divisionByZero
          ⟨draws', m.printed ++ reportHead count (drawnTally gs) seconds, errors⟩
        else .ok 0
          ⟨draws', m.printed ++ fullReport count (drawnTally gs) seconds, errors⟩ := by
  obtain ⟨gs, draws', hrun, hpossible, rfl, hrate⟩ :=
    run_generate counts count 0 #[] { m with draws := draws }
  refine ⟨gs, draws', hpossible, rfl, hrate, ?_⟩
  dsimp only
  rw [program, run_bind_of_ok (run_seedGenerator hdraws m), run_bind_of_ok hrun]
  dsimp only
  -- The bar hands on all lines, so that the tally is that of what was drawn.
  rw [run_bind_of_ok (run_time (handedOn_progress he s _) ha hb _)]
  dsimp only
  rw [List.length_map, run_report hcount, ofLines_of_arePossible hpossible, report_eq ha hb]
  split_ifs <;> rfl

end Program

end Steps

end Benchmark

namespace Command.Timing

open Benchmark

variable {e : Environment} {s : Settings} {count : Int} {rate : Rate} {draws : Draws} {a b : Rat}

/-- The report on declarations that were drawn, where a progress bar hands on all their lines. -/
theorem reportLines_eq {gs : List Generated} (hpossible : ArePossible 0 [] gs) {bar : Progress}
    (hbar : bar.handedOn = { lines := gs.map Generated.line }) {start stop : Rat}
    (ha : Binary64.ofQuotient start = .ok a) (hb : Binary64.ofQuotient stop = .ok b) :
    reportLines bar gs.length start stop =
      if a = b then
        ⟨unlines (reportHead gs.length (drawnTally gs) (.ofRat (b - a))),
          bar.opening ++ bar.running, .failed (.report .divisionByZero)⟩
      else
        ⟨unlines (fullReport gs.length (drawnTally gs) (.ofRat (b - a))),
          bar.opening ++ bar.running, .status 0⟩ := by
  have htime : timeLines bar start stop = .ok (.ofRat (b - a), drawnTally gs) := by
    rw [timeLines, ha, hb, hbar, ← ofLines_of_arePossible hpossible]
    rfl
  have herrors : writtenErrors bar start = bar.opening ++ bar.running := by
    rw [writtenErrors, ha]
  simp only [reportLines, htime, herrors, report_eq ha hb]
  by_cases heq : a = b
  · simp only [if_pos heq]
  · simp only [if_neg heq]

/-- A seed that the generator refuses, such as an absent one, stops the command before it draws, and
nothing is printed or written. -/
theorem run_of_refused_seed {arguments : List String} (hs : settings arguments = .ok s)
    (hlines : s.lines = some count) (hcount : 1 ≤ count) (hseed : e.generator s.seed = none) :
    run arguments e = ⟨"", "", .failed .noSeed⟩ ∧
      ∀ counts m, (Steps.program e s counts count.toNat).run m = .error .noSeed m := by
  constructor
  · simp only [run, hs, hlines, drawnLines, hseed]
    rw [if_neg (by omega)]
  · intro counts m
    rw [Steps.program, run_bind_of_error (Steps.run_seedGenerator_of_none hseed m)]

/-- A generator that takes integers only refuses an option that is left without a value. -/
example :
    let e : Environment := {
      generator := fun seed => seed.map fun _ => .cycle #[0]
      progress := .hidden
      start := 0
      stop := 1 }
    run ["--lines", "1", "--seed=--"] e = ⟨"", "", .failed .noSeed⟩ := by
  decide +kernel

/-- The command draws at its rate, and reports what the time between the readings allows. -/
theorem run_eq {arguments : List String} (he : e.IsReliable) (hs : settings arguments = .ok s)
    (hlines : s.lines = some count) (hcount : 1 ≤ count) (hrate : s.rate = some rate)
    (hdraws : e.generator s.seed = some draws) (ha : Binary64.ofQuotient e.start = .ok a)
    (hb : Binary64.ofQuotient e.stop = .ok b) :
    let n := count.toNat
    let drawn := generate rate n draws
    let bar := s.progress e (drawn.map Generated.line)
    run arguments e =
      if a = b then
        ⟨unlines (reportHead n (drawnTally drawn) (.ofRat (b - a))), bar.opening ++ bar.running,
          .failed (.report .divisionByZero)⟩
      else
        ⟨unlines (fullReport n (drawnTally drawn) (.ofRat (b - a))), bar.opening ++ bar.running,
          .status 0⟩ := by
  intro n drawn bar
  have hdrawn : drawnLines e s.seed s.rate n = .ok (drawn.map Generated.line) := by
    simp [drawnLines, hdraws, hrate, drawn]
  have hlength : drawn.length = n := length_generateFrom rate n 0 #[] draws
  simp only [run, hs, hlines]
  rw [if_neg (by omega), hdrawn]
  dsimp only
  rw [List.length_map, reportLines_eq (arePossible_generate rate n draws)
    (Steps.handedOn_progress he s _) ha hb, hlength]

/-- **The benchmark report.** Let the arguments ask for some lines at some rate, with a seed that is
an integer. The command prints its whole report and ends with status 0 iff the two readings of the
clock differ, as numbers of the format; otherwise it has printed all lines in front of the speeds,
and divides by zero. In both cases the errors hold what the progress bar writes. Nothing else stops
it: done step by step, whatever is drawn and wherever an earlier name is drawn, the program comes to
the same, and what it has drawn at the rate is what the command draws. -/
theorem report_completes_iff (arguments : List String) {seed : Int} (he : e.IsReliable)
    (hs : settings arguments = .ok s) (hlines : s.lines = some count) (hcount : 1 ≤ count)
    (hseed : s.seed = some seed) (hrate : s.rate = some rate)
    (ha : Binary64.ofQuotient e.start = .ok a) (hb : Binary64.ofQuotient e.stop = .ok b) :
    let n := count.toNat
    let seconds := Binary64.ofRat (b - a)
    let barErrors (gs : List Generated) : String :=
      let bar := s.progress e (gs.map Generated.line)
      bar.opening ++ bar.running
    ((run arguments e).ending = .status 0 ↔ a ≠ b) ∧
      ∃ draws, e.generator (some seed) = some draws ∧
        let drawn := generate rate n draws
        run arguments e =
          (if a = b then ⟨unlines (reportHead n (drawnTally drawn) seconds), barErrors drawn,
            .failed (.report .divisionByZero)⟩
          else ⟨unlines (fullReport n (drawnTally drawn) seconds), barErrors drawn,
            .status 0⟩) ∧
        ∀ (counts : Nat → Bool) (m : Bench), ∃ gs draws', ArePossible 0 [] gs ∧ gs.length = n ∧
          (counts = Steps.countsAt rate → gs = drawn) ∧
          (Steps.program e s counts n).run m =
            if a = b then .error .divisionByZero
              ⟨draws', m.printed ++ reportHead n (drawnTally gs) seconds, m.errors ++ barErrors gs⟩
            else .ok 0
              ⟨draws', m.printed ++ fullReport n (drawnTally gs) seconds,
                m.errors ++ barErrors gs⟩ := by
  intro n seconds barErrors
  obtain ⟨draws, hdraws⟩ := he.takesSeed seed
  have hgenerator : e.generator s.seed = some draws := by rw [hseed, hdraws]
  have hrun := run_eq he hs hlines hcount hrate hgenerator ha hb
  refine ⟨?_, draws, hdraws, hrun, fun counts m => ?_⟩
  · rw [hrun]
    split_ifs with heq
    · simp [heq]
    · simp [heq]
  · have hn : n ≠ 0 := by omega
    obtain ⟨gs, draws', hpossible, hlength, hdrawn, hprogram⟩ :=
      Steps.run_program he hgenerator ha hb counts hn m
    exact ⟨gs, draws', hpossible, hlength, fun h => (hdrawn rate h).symm, hprogram⟩

/-- Two lines at an infinite rate, with a progress bar and the numbers that the seed 0 gives, in the
least time that the format can tell from none. -/
theorem report_completes_iff_least_time :
    let arguments := ["--lines", "2", "--duplicate-rate", "inf"]
    let e : Environment := {
      generator := fun seed => seed.map fun _ =>
        .cycle #[1, 1, 1, 4, 988, 1, 414, 0, 1, 11, 3, 2, 4, 2, 1, 4, 2, 4, 1, 1, 5, 483]
      progress := fun lines => {
        opening := "\rdeclarations:   0%|          | 0/" ++ toString lines.length
        running := "\rdeclarations: 100%|##########| " ++ toString lines.length ++ "\n"
        handedOn := { lines } }
      start := 0
      stop := mkRat 1 (2 ^ 1074) }
    e.IsReliable ∧ settings arguments = .ok { lines := some 2, rate := some .always } ∧
      (run arguments e).ending = .status 0 := by
  intro arguments e
  have he : e.IsReliable := ⟨fun _ => ⟨_, rfl⟩, fun _ => rfl⟩
  have hs : settings arguments = .ok { lines := some 2, rate := some .always } := rfl
  have hstart : Binary64.ofQuotient e.start = .ok 0 := by decide +kernel
  have hstop : Binary64.ofQuotient e.stop = .ok (mkRat 1 (2 ^ 1074)) := by decide +kernel
  exact ⟨he, hs, (report_completes_iff arguments he hs rfl (by decide) rfl rfl hstart hstop).1.mpr
    (by decide +kernel)⟩

/-- Two readings of a coarse clock can be equal. -/
theorem not_forall_report_completes :
    ¬ ∀ arguments (e : Environment) s count seed rate, e.IsReliable →
      settings arguments = .ok s → s.lines = some count → 1 ≤ count → s.seed = some seed →
      s.rate = some rate → e.start ≤ e.stop → (run arguments e).ending = .status 0 := by
  intro h
  let e : Environment := {
    generator := fun seed => seed.map fun _ => .cycle #[0]
    progress := .hidden
    start := 1
    stop := 1 }
  have he : e.IsReliable := ⟨fun _ => ⟨_, rfl⟩, fun _ => rfl⟩
  have hs : settings ["--lines", "1", "--no-progress"] =
      .ok { lines := some 1, showsProgress := false } := rfl
  have hrun : (run ["--lines", "1", "--no-progress"] e).ending =
      .failed (.report .divisionByZero) := by
    decide +kernel
  have hstatus := h _ e _ _ _ _ he hs rfl (by decide) rfl rfl le_rfl
  rw [hrun] at hstatus
  cases hstatus

end Command.Timing

end Numeral
