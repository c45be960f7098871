import Numeral.Session.Notice
import Numeral.Session.Settings

/-!
# Sessions

A session takes lines. Up to the sentinel each is a declaration, the line behind it is the
expression, and then the session is done. Every step gives the messages that it causes.

- `start`, `feed`, `finish`: the steps.
- `transcript`: a session driven through a list of lines.
-/

namespace Numeral

namespace Session

/-- Where a session stands. Before it is opened and while it takes declarations, it waits for
declarations. -/
inductive Phase where
  | unopened
  | declarations
  | expression
  | done
  deriving DecidableEq, Repr

/-- The phase as it is shown. -/
def Phase.label : Phase → String
  | unopened | declarations => "awaiting_declarations"
  | expression => "awaiting_expression"
  | done => "done"

/-- A line was fed to a session that takes no more. -/
inductive FeedError where
  | alreadyDone
  deriving DecidableEq, Repr

/-- The sentence that reports a line too many. -/
def FeedError.message : FeedError → String
  | alreadyDone => "Session is already done; start a new session"

end Session

/-- A session: its settings, where it stands, and all that it found so far. -/
structure Session where
  settings : Session.Settings
  phase : Session.Phase
  scope : Scope
  declarations : List Declaration.Run
  expression : Option Expression.Run
  diagnostics : List Diagnostic

namespace Session

/-- The session before its first step. -/
def ofSettings (settings : Settings) : Session where
  settings := settings
  phase := .unopened
  scope := .empty
  declarations := []
  expression := none
  diagnostics := []

/-- Whether the session takes no more lines. -/
def isDone (s : Session) : Bool :=
  s.phase = .done

/-- What a session found. -/
structure Result where
  scope : Scope
  declarations : List Declaration.Run
  expression : Option Expression.Run
  diagnostics : List Diagnostic

/-- Whether there is an expression, and it is valid. -/
def Result.isValid (r : Result) : Bool :=
  r.expression.any (·.isValid)

/-- Whether one of the diagnostics is an error. -/
def Result.hasErrors (r : Result) : Bool :=
  Diagnostic.hasErrors r.diagnostics

/-- What the session found so far. -/
def result (s : Session) : Result where
  scope := s.scope
  declarations := s.declarations
  expression := s.expression
  diagnostics := s.diagnostics

/-- Opens the session with its first prompt, once. -/
def start (s : Session) : Session × List String :=
  match s.phase with
  | .unopened =>
    ({ s with phase := .declarations },
      if s.settings.prompts then [Notice.declarationsPrompt s.settings.sentinel] else [])
  | _ => (s, [])

/-- Takes the sentinel. -/
def endDeclarations (s : Session) : Session × List String :=
  ({ s with phase := .expression }, if s.settings.prompts then [Notice.expressionPrompt] else [])

/-- Takes a declaration. -/
def takeDeclaration (s : Session) (line : String) : Session × List String :=
  let (run, scope) := Declaration.runLine (Line.ofText line) s.scope
  ({ s with
      scope := scope
      declarations := s.declarations ++ [run]
      diagnostics := s.diagnostics ++ run.diagnostics }, run.messages)

/-- Takes the expression. -/
def takeExpression (s : Session) (line : String) : Session × List String :=
  let run := Expression.runLine (Line.ofText line) s.scope s.settings.mode
  ({ s with
      phase := .done
      expression := some run
      diagnostics := s.diagnostics ++ run.diagnostics }, run.messages)

/-- Whether the open session takes `line` for the sentinel. -/
def endsDeclarations (s : Session) (line : String) : Bool :=
  s.phase = .declarations && line = s.settings.sentinel

/-- Takes a line as what the phase asks for. -/
def advance (s : Session) (line : String) : Except FeedError (Session × List String) :=
  match s.phase with
  | .unopened | .declarations =>
    if line = s.settings.sentinel then .ok s.endDeclarations else .ok (s.takeDeclaration line)
  | .expression => .ok (s.takeExpression line)
  | .done => .error .alreadyDone

/-- Opens the session if need be and takes a line. -/
def feed (s : Session) (line : String) : Except FeedError (Session × List String) :=
  let (s, opening) := s.start
  (s.advance line).map fun (s, messages) => (s, opening ++ messages)

theorem advance_of_open {s : Session} (h : s.phase = .unopened ∨ s.phase = .declarations)
    (line : String) :
    s.advance line =
      if line = s.settings.sentinel then .ok s.endDeclarations
      else .ok (s.takeDeclaration line) := by
  rcases h with h | h <;> rw [advance, h]

theorem advance_of_expression {s : Session} (h : s.phase = .expression) (line : String) :
    s.advance line = .ok (s.takeExpression line) := by
  rw [advance, h]

theorem advance_of_done {s : Session} (h : s.phase = .done) (line : String) :
    s.advance line = .error .alreadyDone := by
  rw [advance, h]

theorem feed_eq (s : Session) (line : String) :
    s.feed line = (s.start.1.advance line).map fun (next, messages) =>
      (next, s.start.2 ++ messages) :=
  rfl

/-- The report that there was no expression. -/
def missingExpression : Diagnostic :=
  Diagnostic.Code.missingExpression.report (.empty 0)

/-- Opens the session if need be and closes it. A session without an expression reports so. -/
def finish (s : Session) : Session × List String :=
  let (s, opening) := s.start
  match s.phase with
  | .done => (s, opening)
  | _ =>
    ({ s with phase := .done, diagnostics := s.diagnostics ++ [missingExpression] },
      opening ++ [Notice.diagnostic missingExpression])

theorem expression_finish (s : Session) : s.finish.1.expression = s.expression := by
  have hstart : s.start.1.expression = s.expression := by
    unfold start
    split <;> rfl
  rw [← hstart, finish]
  dsimp only
  split <;> rfl

theorem finish_of_done {s : Session} (h : s.phase = .done) : s.finish = (s, []) := by
  have hstart : s.start = (s, []) := by rw [start, h]
  simp [finish, hstart, h]

/-! ## Whole sessions -/

/-- A line that a session took, and what came of it. -/
structure Exchange where
  line : String
  isSentinel : Bool
  messages : List String
  deriving DecidableEq, Repr

/-- A session from its opening to its end: the messages of the opening, the lines taken with theirs,
the messages of the end, what the session found, and the lines that it left. -/
structure Transcript where
  opening : List String
  exchanges : List Exchange
  closing : List String
  result : Result
  left : List String

/-- Feeds an open session with `lines` until it is done or they run out. -/
def feedAll (s : Session) : List String → Session × List Exchange × List String
  | [] => (s, [], [])
  | line :: lines =>
    match s.advance line with
    | .error _ => (s, [], line :: lines)
    | .ok (next, messages) =>
      let (last, exchanges, left) := next.feedAll lines
      (last, ⟨line, s.endsDeclarations line, messages⟩ :: exchanges, left)

theorem feedAll_of_ok {s next : Session} {line : String} {messages : List String}
    (h : s.advance line = .ok (next, messages)) (lines : List String) :
    (s.feedAll (line :: lines)).1 = (next.feedAll lines).1 := by
  rw [feedAll, h]

theorem feedAll_of_done {s : Session} (h : s.phase = .done) (lines : List String) :
    (s.feedAll lines).1 = s := by
  cases lines with
  | nil => rfl
  | cons line lines => rw [feedAll, advance_of_done h]

/-- Drives a session through `lines`. -/
def transcript (settings : Settings) (lines : List String) : Transcript :=
  let (s, opening) := (ofSettings settings).start
  let (s, exchanges, left) := s.feedAll lines
  let (s, closing) := s.finish
  { opening := opening, exchanges := exchanges, closing := closing, result := s.result,
    left := left }

namespace Transcript

/-- All messages in order. -/
def messages (t : Transcript) : List String :=
  t.opening ++ t.exchanges.flatMap (·.messages) ++ t.closing

end Transcript

end Session

end Numeral
