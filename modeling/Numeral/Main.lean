import Numeral.Command.Check

/-!
# The check command as a program

Reads the arguments and the input, runs the check command on them, and prints its report. A session
on the standard input is driven line by line, so that a person at a terminal is answered at once.
-/

namespace Numeral.Command.Check

/-- Prints lines. -/
def printLines (lines : List String) : IO Unit := do
  IO.print (unlines lines)
  (← IO.getStdout).flush

/-- Feeds an open session with the lines of `input` until it is done or they run out. -/
partial def converse (listTokens : Bool) (input : IO.FS.Stream) (s : Session) : IO Session := do
  let text ← input.getLine
  if text.isEmpty then return s
  let (s, exchanges, _) := s.feedAll (plainLines text)
  printLines (exchanges.flatMap (exchangeLines listTokens))
  if s.isDone then return s
  converse listTokens input s

/-- Runs a session on the standard input, and gives its status. -/
def converseFromStart (settings : Session.Settings) (listTokens : Bool) : IO Nat := do
  let (s, opening) := (Session.ofSettings settings).start
  printLines opening
  let (s, closing) := (← converse listTokens (← IO.getStdin) s).finish
  printLines closing
  return status s.result

/-- The tree that holds the file at `path`, if there is one. -/
def loadFile (path : Path) : IO FileTree := do
  let tree := FileTree.empty []
  try
    let bytes ← IO.FS.readBinFile path.toString
    match FileTree.place path bytes.toList tree with
    | .ok _ tree => return tree
    | .error _ _ => return tree
  catch _ => return tree

/-- Prints a report, and gives the status that it ends with. -/
def printReport (r : Report FileError) : IO Nat := do
  IO.print r.output
  IO.eprint r.errors
  match r.ending with
  | .completed => return 0
  | .status n => return n
  | .refused text =>
    IO.eprintln text
    return 1
  | .failed e =>
    IO.eprintln e.message
    return 1

end Numeral.Command.Check

open Numeral Command

/-- Runs the check command. -/
def main (arguments : List String) : IO UInt32 := do
  let isTerminal ← (← IO.getStdin).isTty
  let code ←
    match Check.settings arguments with
    | .error stop => Check.printReport (Check.interface.stopped stop)
    | .ok s =>
      match s.input, s.sessionSettings isTerminal with
      | none, .ok settings => Check.converseFromStart settings s.listTokens
      | none, .error _ => Check.printReport (.refusal Check.Refusal.emptySentinel.message)
      | some path, _ =>
        Check.printReport (Check.run arguments (← Check.loadFile path) "" isTerminal)
  return code.toUInt32
