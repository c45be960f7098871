import Numeral.Command.FileTree
import Numeral.Command.Interface
import Numeral.Session
import Numeral.Text.LineStream

/-!
# The check command

Drives a session through the lines of a file, or of the standard input where no file is named, and
prints its messages. With token listings, every line but the one that ends the declarations is
listed before the session takes it. The status is zero iff the session is valid.
-/

namespace Numeral.Command.Check

/-- The arguments of the command. -/
def interface : Interface where
  program := "radixcheck"
  usage := [
    "usage: radixcheck [-h] [--sentinel SENTINEL] [--report-all] [--quiet]",
    "                  [--dump-tokens]",
    "                  [input]"]
  explanation := [
    "Declare bin/oct/hex variables, then check an expression only uses declared",
    "ones",
    "",
    "positional arguments:",
    "  input                Session file (declarations, sentinel line, expression).",
    "                       Reads stdin when omitted",
    "",
    "options:",
    "  -h, --help           show this help message and exit",
    "  --sentinel SENTINEL  Line that ends the declarations (default: END)",
    "  --report-all         Report every undeclared variable instead of stopping at",
    "                       the first one",
    "  --quiet              Do not print input prompts",
    "  --dump-tokens        Print the tokens of every line before it is checked"]
  options := [
    ⟨"--sentinel", .value⟩,
    ⟨"--report-all", .switch⟩,
    ⟨"--quiet", .switch⟩,
    ⟨"--dump-tokens", .switch⟩]
  positional := .optional

/-- The settings of the command. -/
structure Settings where
  input : Option Path := none
  sentinel : String := Session.defaultSentinel
  reportAll : Bool := false
  quiet : Bool := false
  listTokens : Bool := false
  deriving DecidableEq, Repr

namespace Settings

/-- Takes up an option or the name of the input. -/
def apply (s : Settings) : Event → Except UsageError Settings
  | .value _ text => .ok { s with sentinel := text }
  | .noValue _ => .ok { s with sentinel := "" }
  | .switch "--report-all" => .ok { s with reportAll := true }
  | .switch "--quiet" => .ok { s with quiet := true }
  | .switch "--dump-tokens" => .ok { s with listTokens := true }
  | .positional text => .ok { s with input := some (.ofString text) }
  | _ => .ok s

/-- The mode of the expression check. -/
def mode (s : Settings) : Expression.Mode :=
  if s.reportAll then .all else .first

/-- Whether a session under these settings gives prompts: only a person at a terminal is asked. -/
def isInteractive (s : Settings) (isTerminal : Bool) : Bool :=
  s.input.isNone && isTerminal && !s.quiet

/-- The settings of the session. -/
def sessionSettings (s : Settings) (isTerminal : Bool) :
    Except Session.SettingsError Session.Settings :=
  Session.Settings.make s.sentinel s.mode (s.isInteractive isTerminal)

end Settings

/-- The settings that the arguments give. -/
def settings (arguments : List String) : Except Stop Settings :=
  interface.settings Settings.apply {} arguments

/-- What is printed for a line that the session took. -/
def exchangeLines (listTokens : Bool) (e : Session.Exchange) : List String :=
  (if listTokens && !e.isSentinel then (Line.ofText e.line).listed else []) ++ e.messages

/-- What is printed for a session before it is closed. -/
def exchangedLines (listTokens : Bool) (t : Session.Transcript) : List String :=
  t.opening ++ t.exchanges.flatMap (exchangeLines listTokens)

/-- All that is printed for a session. -/
def transcriptLines (listTokens : Bool) (t : Session.Transcript) : List String :=
  exchangedLines listTokens t ++ t.closing

/-- The status that a session gives. -/
def status (r : Session.Result) : Nat :=
  if r.isValid then 0 else 1

/-- What the command refuses to work on. -/
inductive Refusal where
  | emptySentinel
  | invalidInput (path : Path)
  | notUtf8 (path : Path) (reason : Utf8.Reason)
  deriving DecidableEq, Repr

/-- The sentence that reports a refusal. -/
def Refusal.message : Refusal → String
  | emptySentinel => "Invalid --sentinel: cannot be empty"
  | invalidInput path => "Invalid input file: " ++ path.toString
  | notUtf8 path reason =>
    "Invalid input file: " ++ path.toString ++ " is not UTF-8 (" ++ reason.message ++ ")"

/-- The report of a session on a stream of lines. A fault of the stream is met unless the session is
done before it, and then the session is not closed. -/
def reportStream (settings : Session.Settings) (listTokens : Bool) (stream : LineStream Refusal) :
    Report FileError :=
  let t := Session.transcript settings stream.lines
  match stream.fault, t.result.expression with
  | some refusal, none => ⟨unlines (exchangedLines listTokens t), "", .refused refusal.message⟩
  | _, _ => ⟨unlines (transcriptLines listTokens t), "", .status (status t.result)⟩

/-- The lines of the file at `path`. A path that leads to no file is refused, but one that is too long
to be looked up is a failure. -/
def openFile (files : FileTree) (path : Path) : Except (Ending FileError) (LineStream Refusal) :=
  match files.read path with
  | .ok bytes => .ok ((LineStream.ofBytes bytes).mapFault fun fault => .notUtf8 path fault.reason)
  | .error (.refused .nameTooLong p) => .error (.failed (.refused .nameTooLong p))
  | .error _ => .error (.refused (Refusal.invalidInput path).message)

/-- The lines that the session runs on. The standard input is taken to be read as a file is, with all
plain line ends. Where only a line feed ends a line of the standard input, and a lone carriage
return stays in its line, the command is not described. -/
def openInput (s : Settings) (files : FileTree) (standardInput : String) :
    Except (Ending FileError) (LineStream Refusal) :=
  match s.input with
  | none => .ok (.ofText standardInput)
  | some path => openFile files path

/-- Runs the command. The sentinel is looked at before the file. -/
def run (arguments : List String) (files : FileTree) (standardInput : String)
    (isTerminal : Bool) : Report FileError :=
  match settings arguments with
  | .error stop => interface.stopped stop
  | .ok s =>
    match s.sessionSettings isTerminal with
    | .error .emptySentinel => .refusal Refusal.emptySentinel.message
    | .ok settings =>
      match openInput s files standardInput with
      | .error ending => ⟨"", "", ending⟩
      | .ok stream => reportStream settings s.listTokens stream

end Numeral.Command.Check
