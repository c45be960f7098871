import Numeral.Benchmark.Environment
import Numeral.Benchmark.Generator
import Numeral.Benchmark.Report
import Numeral.Command.Interface
import Numeral.Token.Listing

/-!
# The timing command

Seeds a generator, draws declarations, judges them while a progress bar is shown, and reports the
tally and the speed. The generator, the progress bar and the two readings of the clock come from
outside.
-/

namespace Numeral.Command.Timing

open Benchmark

/-- The arguments of the command. -/
def interface : Interface where
  program := "time_declarations.py"
  usage := [
    "usage: time_declarations.py [-h] [--lines LINES] [--seed SEED]",
    "                            [--duplicate-rate DUPLICATE_RATE] [--no-progress]"]
  explanation := [
    "Benchmark tokenize + validate_declaration per line",
    "",
    "options:",
    "  -h, --help            show this help message and exit",
    "  --lines LINES         Generated declaration lines",
    "  --seed SEED           Random seed for line generation",
    "  --duplicate-rate DUPLICATE_RATE",
    "                        Share of lines that redeclare an earlier name",
    "                        (default: 0.1)",
    "  --no-progress         Disable the tqdm progress bar"]
  options := [
    ⟨"--lines", .value⟩,
    ⟨"--seed", .value⟩,
    ⟨"--duplicate-rate", .value⟩,
    ⟨"--no-progress", .switch⟩]
  positional := .none

/-- The settings of the command. -/
structure Settings where
  lines : Option Int := some 100000
  seed : Option Int := some 0
  rate : Option Rate := some .tenth
  showsProgress : Bool := true

/-- The integer that is the value of an option. -/
def readInt (option text : String) : Except UsageError Int :=
  match Literal.int? text with
  | some n => .ok n
  | none => .error (.invalidValue option "int" text)

/-- The rate that is the value of an option. -/
def readRate (option text : String) : Except UsageError Rate :=
  match Literal.real? text with
  | some r => .ok (.ofReal r)
  | none => .error (.invalidValue option "float" text)

/-- Takes up an option. -/
def Settings.apply (s : Settings) : Event → Except UsageError Settings
  | .value "--lines" text => (readInt "--lines" text).map ({ s with lines := some · })
  | .value "--seed" text => (readInt "--seed" text).map ({ s with seed := some · })
  | .value option text => (readRate option text).map ({ s with rate := some · })
  | .noValue "--lines" => .ok { s with lines := none }
  | .noValue "--seed" => .ok { s with seed := none }
  | .noValue _ => .ok { s with rate := none }
  | .switch "--no-progress" => .ok { s with showsProgress := false }
  | _ => .ok s

/-- The settings that the arguments give. -/
def settings (arguments : List String) : Except Stop Settings :=
  interface.settings Settings.apply {} arguments

/-- Why the command fails. -/
inductive Failure where
  | noLineCount
  | noSeed
  | noRate
  | clock (error : Binary64.QuotientError)
  | progress (fault : String)
  | report (error : ReportError)
  deriving DecidableEq, Repr

/-- The sentence that reports a failure. -/
def Failure.message : Failure → String
  | noLineCount => "'<=' not supported between instances of 'list' and 'int'"
  | noSeed =>
    "The only supported seed types are: None,\nint, float, str, bytes, and bytearray."
  | noRate => "'<' not supported between instances of 'float' and 'list'"
  | clock error => error.message
  | progress fault => fault
  | report error => error.message

/-- The lines that the command judges. The generator is seeded before the rate is looked at. Without
a rate only the first line can be drawn, as no earlier line declares a name. -/
def drawnLines (e : Environment) (seed : Option Int) (rate : Option Rate) (count : Nat) :
    Except Failure (List String) :=
  match e.generator seed with
  | none => .error .noSeed
  | some draws =>
    if rate.isNone ∧ 1 < count then .error .noRate
    else .ok ((generate (rate.getD .never) count draws).map (·.line))

/-- Judges the lines that a progress bar hands on, between two readings of the clock. Gives the time
and the tally. -/
def timeLines (bar : Progress) (start stop : Rat) : Except Failure (Binary64 × Tally) := do
  let start ← (Binary64.ofQuotient start).mapError .clock
  if let some fault := bar.handedOn.fault then throw (.progress fault)
  let stop ← (Binary64.ofQuotient stop).mapError .clock
  return (.ofRat (stop - start), .ofLines bar.handedOn.lines)

/-- What a progress bar has written to the errors by the end of the judging. Without a first reading
of the clock no line is taken from it. -/
def writtenErrors (bar : Progress) (start : Rat) : String :=
  match Binary64.ofQuotient start with
  | .ok _ => bar.opening ++ bar.running
  | .error _ => bar.opening

/-- Reports on `count` lines that a progress bar hands on. -/
def reportLines (bar : Progress) (count : Nat) (start stop : Rat) : Report Failure :=
  let errors := writtenErrors bar start
  match timeLines bar start stop with
  | .error failure => ⟨"", errors, .failed failure⟩
  | .ok (seconds, tally) =>
    match Benchmark.report count tally seconds with
    | (printed, none) => ⟨unlines printed, errors, .status 0⟩
    | (printed, some error) => ⟨unlines printed, errors, .failed (.report error)⟩

/-- The progress bar over some lines that the settings ask for. -/
def Settings.progress (s : Settings) (e : Environment) (lines : List String) : Progress :=
  if s.showsProgress then e.progress lines else .hidden lines

/-- Runs the command. -/
def run (arguments : List String) (e : Environment) : Report Failure :=
  match settings arguments with
  | .error stop => interface.stopped stop
  | .ok s =>
    match s.lines with
    | none => ⟨"", "", .failed .noLineCount⟩
    | some count =>
      if count ≤ 0 then .refusal ("Invalid --lines: " ++ toString count)
      else
        match drawnLines e s.seed s.rate count.toNat with
        | .error failure => ⟨"", "", .failed failure⟩
        | .ok lines => reportLines (s.progress e lines) lines.length e.start e.stop

end Numeral.Command.Timing
