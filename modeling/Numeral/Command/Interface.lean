import Numeral.Number.Literal
import Numeral.Text.Quoted

/-!
# Command lines

The interface of a command is a list of long options, each a switch or one that takes a value, a
help option, and at most one positional argument. Its arguments are read in two passes. The first
marks each argument by what it can be; an option may be shortened as long as it stays unique, and an
ambiguous one ends the reading at once. The second turns the marks into events, in the order of the
arguments, up to the first fault.
-/

namespace Numeral.Command

/-- Whether an option takes a value. -/
inductive Arity where
  | switch
  | value
  deriving DecidableEq, Repr

/-- A long option, its dashes included. -/
structure LongOption where
  name : String
  arity : Arity
  deriving DecidableEq, Repr

/-- The positional argument of a command. -/
inductive Positional where
  | none
  | optional
  | required (name : String)
  deriving DecidableEq, Repr

/-- What arguments a command has, and how it explains them. -/
structure Interface where
  program : String
  usage : List String
  explanation : List String
  options : List LongOption
  positional : Positional

/-- Why arguments are refused. -/
inductive UsageError where
  | ambiguous (argument : String) (candidates : List String)
  | expectedArgument (option : String)
  | ignoredArgument (option value : String)
  | invalidValue (option type text : String)
  | missing (name : String)
  | unrecognized (arguments : List String)
  deriving DecidableEq, Repr

/-- The sentence that reports refused arguments. -/
def UsageError.message : UsageError → String
  | ambiguous argument candidates =>
    "ambiguous option: " ++ argument ++ " could match " ++ ", ".intercalate candidates
  | expectedArgument option => "argument " ++ option ++ ": expected one argument"
  | ignoredArgument option value =>
    "argument " ++ option ++ ": ignored explicit argument " ++ quote value
  | invalidValue option type text =>
    "argument " ++ option ++ ": invalid " ++ type ++ " value: " ++ quote text
  | missing name => "the following arguments are required: " ++ name
  | unrecognized arguments => "unrecognized arguments: " ++ " ".intercalate arguments

/-- What one step of the reading finds. -/
inductive Event where
  | help
  | switch (option : String)
  | value (option text : String)
  | noValue (option : String)
  | positional (text : String)
  | fault (error : UsageError)
  deriving DecidableEq, Repr

/-- What an argument can be. -/
inductive Mark where
  | argument (text : String)
  | separator
  | event (event : Event)
  | wantsValue (option : String)
  | unknown (text : String)
  deriving DecidableEq, Repr

/-! ## Marks -/

/-- The help options under one name. -/
def helpName : String := "-h/--help"

/-- What is written behind the `-h` of an argument can only be the same letter again. -/
def helpTail : List Char → Event
  | [] => .help
  | 'h' :: rest => helpTail rest
  | rest => .fault (.ignoredArgument helpName (String.ofList rest))

/-- Whether `cs` is written like a negative number. A line feed at its end does not count. -/
def isNegativeNumber (cs : List Char) : Bool :=
  match if cs.getLast? = some '\n' then cs.dropLast else cs with
  | '-' :: body =>
    let isDigit c := (digitValue? c).isSome
    match body.dropWhile isDigit with
    | [] => !body.isEmpty
    | '.' :: fraction => !fraction.isEmpty && fraction.all isDigit
    | _ => false
  | _ => false

/-- The text before the first `=`, and the text behind it if there is one. -/
def splitAttached (cs : List Char) : String × Option String :=
  let before := cs.takeWhile (· ≠ '=')
  match cs.dropWhile (· ≠ '=') with
  | [] => (String.ofList before, none)
  | _ :: behind => (String.ofList before, some (String.ofList behind))

namespace Interface

/-- The long options by name, the help option first. -/
def names (i : Interface) : List String :=
  "--help" :: i.options.map (·.name)

/-- The event of an option with a value attached to it. Two dashes alone are dropped, which leaves
the option without a value. So do the older readers of command lines; to the newer ones an attached
pair of dashes is a value like any other. -/
def attachedValue (option value : String) : Event :=
  if value = "--" then .noValue option else .value option value

/-- The mark of the option called `name`, with the value that is attached to it if there is
one. -/
def markOption (i : Interface) (name : String) (attached : Option String) : Mark :=
  if name = "--help" then
    match attached with
    | none => .event .help
    | some value => .event (.fault (.ignoredArgument helpName value))
  else
    match i.options.find? (·.name = name), attached with
    | some ⟨_, .value⟩, some value => .event (attachedValue name value)
    | some ⟨_, .value⟩, none => .wantsValue name
    | some ⟨_, .switch⟩, some value => .event (.fault (.ignoredArgument name value))
    | some ⟨_, .switch⟩, none => .event (.switch name)
    | none, _ => .unknown name

/-- The mark of an argument that starts like an option and is none. -/
def markOther (argument : String) : Mark :=
  if isNegativeNumber argument.toList ∨ ' ' ∈ argument.toList then .argument argument
  else .unknown argument

/-- The mark of an argument that starts with two dashes and goes on. -/
def markLong (i : Interface) (argument : String) : Except UsageError Mark :=
  let (name, attached) := splitAttached argument.toList
  if name ∈ i.names then .ok (i.markOption name attached)
  else
    match i.names.filter (fun option => name.toList.isPrefixOf option.toList) with
    | [] => .ok (markOther argument)
    | [option] => .ok (i.markOption option attached)
    | candidates => .error (.ambiguous argument candidates)

/-- The mark of an argument that no separator stands before. -/
def mark (i : Interface) (argument : String) : Except UsageError Mark :=
  match argument.toList with
  | '-' :: '-' :: _ => i.markLong argument
  | ['-', 'h', '='] => .ok (.event (.fault (.ignoredArgument helpName "")))
  | '-' :: 'h' :: '=' :: tail | '-' :: 'h' :: tail => .ok (.event (helpTail tail))
  | '-' :: _ :: _ => .ok (markOther argument)
  | _ => .ok (.argument argument)

/-- The marks of all arguments. Behind the first `--` nothing is an option. -/
def marks (i : Interface) : List String → Except UsageError (List Mark)
  | [] => .ok []
  | argument :: rest =>
    if argument = "--" then .ok (.separator :: rest.map .argument)
    else do
      let m ← i.mark argument
      return m :: (← i.marks rest)

/-! ## Events -/

/-- The event at the end of the arguments: the positional argument is missing, or some argument
found no use. -/
def closing (positional : Positional) (unused : List String) : List Event :=
  match positional, unused with
  | .required name, _ => [.fault (.missing name)]
  | _, [] => []
  | _, unused => [.fault (.unrecognized unused)]

/-- The events of `marks`, where `positional` is still to be filled and `unused` found no use. The
positional argument takes up a separator next to it. -/
def collect (positional : Positional) (unused : List String) : List Mark → List Event
  | [] => closing positional unused
  | .event e :: rest => e :: collect positional unused rest
  | .wantsValue option :: .argument text :: rest =>
    .value option text :: collect positional unused rest
  | .wantsValue option :: _ => [.fault (.expectedArgument option)]
  | .unknown text :: rest => collect positional (unused ++ [text]) rest
  | .separator :: .argument text :: rest =>
    match positional with
    | .none => collect .none (unused ++ ["--", text]) rest
    | _ => .positional text :: collect .none unused rest
  | .separator :: rest =>
    match positional with
    | .none => collect .none (unused ++ ["--"]) rest
    | _ => collect positional unused rest
  | .argument text :: .separator :: rest =>
    match positional with
    | .none => collect .none (unused ++ [text, "--"]) rest
    | _ => .positional text :: collect .none unused rest
  | .argument text :: rest =>
    match positional with
    | .none => collect .none (unused ++ [text]) rest
    | _ => .positional text :: collect .none unused rest

/-- The events of the arguments. -/
def events (i : Interface) (arguments : List String) : List Event :=
  match i.marks arguments with
  | .error e => [.fault e]
  | .ok marks => collect i.positional [] marks

end Interface

/-! ## Settings -/

/-- Why a command ends without doing its work. -/
inductive Stop where
  | help
  | usage (error : UsageError)
  deriving DecidableEq, Repr

/-- The settings that the arguments give, where `apply` takes up one option or argument. The first
fault or call for help ends the reading. -/
def Interface.settings {σ : Type} (i : Interface) (apply : σ → Event → Except UsageError σ)
    (start : σ) (arguments : List String) : Except Stop σ :=
  (i.events arguments).foldlM (fun s e =>
    match e with
    | .help => .error .help
    | .fault error => .error (.usage error)
    | e => (apply s e).mapError .usage) start

/-- How a command ends: its work done, with a status, with a text that says why it refuses to work,
or with a failure. -/
inductive Ending (ε : Type) where
  | completed
  | status (code : Nat)
  | refused (text : String)
  | failed (error : ε)
  deriving DecidableEq, Repr

/-- What a command prints, and how it ends. -/
structure Report (ε : Type) where
  output : String
  errors : String
  ending : Ending ε
  deriving DecidableEq, Repr

/-- The report of a command that refuses to work. -/
def Report.refusal {ε : Type} (text : String) : Report ε :=
  ⟨"", "", .refused text⟩

/-- The report of a command that ends without doing its work. -/
def Interface.stopped {ε : Type} (i : Interface) : Stop → Report ε
  | .help => ⟨joinLines (i.usage ++ "" :: i.explanation), "", .status 0⟩
  | .usage error =>
    ⟨"", joinLines (i.usage ++ [i.program ++ ": error: " ++ error.message]), .status 2⟩
where
  joinLines (lines : List String) : String :=
    String.join (lines.map (· ++ "\n"))

end Numeral.Command
