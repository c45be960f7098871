import Numeral.Command.FileTree
import Numeral.Command.Interface
import Numeral.Line
import Numeral.Text.Lines
import Numeral.Text.Utf8

/-!
# The listing command

Writes the tokens of every line of a file to another file. The input is read as a whole before
anything is written.
-/

namespace Numeral.Command.Listing

/-- The arguments of the command. -/
def interface : Interface where
  program := "dump_tokens.py"
  usage := ["usage: dump_tokens.py [-h] [--output OUTPUT] input"]
  explanation := [
    "Write the tokens of every line of a session file",
    "",
    "positional arguments:",
    "  input            Session file to lex line by line",
    "",
    "options:",
    "  -h, --help       show this help message and exit",
    "  --output OUTPUT  Where to write the token listing (default: out/tokens.txt)"]
  options := [⟨"--output", .value⟩]
  positional := .required "input"

/-- The settings of the command. -/
structure Settings where
  input : Path := ⟨"", []⟩
  output : Option Path := some ⟨"", ["out", "tokens.txt"]⟩
  deriving DecidableEq, Repr

/-- Takes up an option or the name of the input. -/
def Settings.apply (s : Settings) : Event → Except UsageError Settings
  | .value _ text => .ok { s with output := some (.ofString text) }
  | .noValue _ => .ok { s with output := none }
  | .positional text => .ok { s with input := .ofString text }
  | _ => .ok s

/-- The settings that the arguments give. -/
def settings (arguments : List String) : Except Stop Settings :=
  interface.settings Settings.apply {} arguments

/-- Why the command fails. -/
inductive Failure where
  | file (error : FileError)
  | encoding (fault : Utf8.Fault)
  | noOutput
  deriving DecidableEq, Repr

/-- The sentence that reports a failure. -/
def Failure.message : Failure → String
  | file error => error.message
  | encoding fault => fault.message
  | noOutput => "'list' object has no attribute 'parent'"

/-- The entry of a token. -/
def tokenEntry (index : Nat) (t : Token) : String :=
  "[" ++ toString index ++ "] kind=" ++ t.kind.name ++ " text=" ++ quote t.text ++
    " range=" ++ t.span.bracketed

/-- The entry of a diagnostic. -/
def diagnosticEntry (d : Diagnostic) : String :=
  "! " ++ d.code ++ " range=" ++ d.span.bracketed ++ " " ++ d.message

/-- The entries of a line: its heading, its tokens, its diagnostics. -/
def lineEntries (number : Nat) (line : Line) : List String :=
  ("# line " ++ toString number ++ ": " ++ quote line.source) ::
    (line.tokens.zipIdx.map fun (t, index) => tokenEntry index t) ++
    line.diagnostics.map diagnosticEntry

/-- The entries of all lines, numbered from one. -/
def entries (lines : List Line) : List String :=
  (lines.zipIdx 1).flatMap fun (line, number) => lineEntries number line

/-- The lines of a text. -/
def linesOf (text : String) : List Line :=
  (wideLines text).map .ofText

/-- The number of tokens of all lines. -/
def tokenCount (lines : List Line) : Nat :=
  (lines.flatMap (·.tokens)).length

/-- What the command prints when it is done. -/
def summary (lines : List Line) (output : Path) : String :=
  "Wrote " ++ toString (tokenCount lines) ++ " tokens from " ++ toString lines.length ++
    " lines to " ++ output.toString

/-- The lines of the input file. -/
def readLines (files : FileTree) (input : Path) : Except Failure (List Line) := do
  let bytes ← (files.read input).mapError .file
  return linesOf (← (Utf8.decode bytes).mapError .encoding)

/-- Writes the listing of `lines`, in a directory that is made if need be. -/
def writeListing (lines : List Line) (output : Path) : FileTree.Action Failure Unit := fun files =>
  match FileTree.place output (Utf8.encode (unlines (entries lines))) files with
  | .error e files => .error (.file e) files
  | .ok _ files => .ok () files

/-- Reads the lines of the input and writes their listing. Gives what the command prints. -/
def execute (s : Settings) : FileTree.Action Failure String := fun files =>
  match readLines files s.input, s.output with
  | .error failure, _ => .error failure files
  | .ok _, none => .error .noOutput files
  | .ok lines, some output =>
    match writeListing lines output files with
    | .error failure files => .error failure files
    | .ok _ files => .ok (summary lines output) files

/-- Runs the command. -/
def run (arguments : List String) (files : FileTree) : Report Failure × FileTree :=
  match settings arguments with
  | .error stop => (interface.stopped stop, files)
  | .ok s =>
    match execute s files with
    | .error failure files => (⟨"", "", .failed failure⟩, files)
    | .ok printed files => (⟨unlines [printed], "", .completed⟩, files)

end Numeral.Command.Listing
