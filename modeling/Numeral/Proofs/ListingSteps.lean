import Numeral.Command.Listing
import Numeral.Proofs.FilePlaces
import Numeral.Proofs.LineEnds
import Numeral.Proofs.LineFaults

/-!
# The listing command step by step

The command changes files as it goes on: it makes directories, empties the output, and writes the
entries one after the other. Here it is a program of such steps, in which every check that can stop
it stands where it is made. What a step has written stays when a later one stops.

- `Desk`, `Act`, `act`: what the command works on, and its program.
- `run_linesAct`: once the output is open, nothing stops the program, and it writes all entries.
- `run_act`: the program does what the command does.
- `execute_cases`: the command fails before the output is opened, or writes the whole listing.
- `failed_listing_keeps_files`: what the command leaves behind when it fails, and when it does not.
-/

namespace Numeral

/-! ## Files that are written on -/

namespace FileTree

/-- Opens the file at the end of a path, empty whether it was there before or not. Gives the place
where it is written on. -/
def openEmpty (p : Path) : Action FileError (List String) := fun t =>
  match t.locate p with
  | .error e => .error e t
  | .ok place =>
    match t.node? place with
    | some .directory => .error (.refused .isDirectory p) t
    | _ => .ok place (t.set place (.file []))

/-- The tree with `bytes` at the end of the file at a place. -/
def append (t : FileTree) (place : List String) (bytes : List UInt8) : FileTree :=
  match t.node? place with
  | some (.file old) => t.set place (.file (old ++ bytes))
  | _ => t

variable {t : FileTree} {place : List String} {p : Path}

private theorem append_set (h : place ≠ []) (old bytes : List UInt8) :
    (t.set place (.file old)).append place bytes = t.set place (.file (old ++ bytes)) := by
  rw [append, node?_set h, if_pos rfl]
  exact t.set_set place _ _

private theorem openEmpty_of_locate (hlocate : t.locate p = .ok place)
    (hplace : t.node? place ≠ some .directory) :
    openEmpty p t = .ok place (t.set place (.file [])) := by
  rw [openEmpty, hlocate]
  cases hnode : t.node? place with
  | none => simp [hnode]
  | some node =>
    cases node with
    | directory => exact absurd hnode hplace
    | file bytes => simp [hnode]

/-- Opens the file at the end of a path, and makes the directories on the way. -/
def openAt (p : Path) : Action FileError (List String) := do
  ensureDirectories p.parent
  openEmpty p

/-- To open a file fails with nothing but new directories, or leads to a place where no directory
stands. -/
theorem openAt_cases (p : Path) (t : FileTree) :
    (∃ e t', openAt p t = .error e t' ∧ t.AddsDirectories t') ∨
      ∃ t' place, t.AddsDirectories t' ∧ t'.locate p = .ok place ∧
        t'.node? place ≠ some .directory ∧ openAt p t = .ok place (t'.set place (.file [])) := by
  have hadds := ensureDirectories_adds p.parent t
  simp only [openAt, bind, EStateM.bind]
  cases hmade : ensureDirectories p.parent t with
  | error e t' =>
    rw [hmade] at hadds
    exact .inl ⟨e, t', rfl, hadds⟩
  | ok _ t' =>
    rw [hmade] at hadds
    cases hlocate : t'.locate p with
    | error e => exact .inl ⟨e, t', by simp [openEmpty, hlocate], hadds⟩
    | ok place =>
      by_cases hplace : t'.node? place = some .directory
      · exact .inl ⟨.refused .isDirectory p, t', by simp [openEmpty, hlocate, hplace], hadds⟩
      · exact .inr ⟨t', place, hadds, hlocate, hplace, openEmpty_of_locate hlocate hplace⟩

/-- A file is made with its bytes iff it can be opened. -/
theorem place_eq (p : Path) (bytes : List UInt8) (t : FileTree) :
    FileTree.place p bytes t =
      match openAt p t with
      | .error e t' => .error e t'
      | .ok place t' => .ok () (t'.set place (.file bytes)) := by
  simp only [FileTree.place, openAt, bind, EStateM.bind]
  cases ensureDirectories p.parent t with
  | error e t' => rfl
  | ok _ t' =>
    dsimp only
    rw [write, openEmpty]
    cases t'.locate p with
    | error e => rfl
    | ok place =>
      dsimp only
      cases hnode : t'.node? place with
      | none => simp
      | some node => cases node <;> simp

end FileTree

theorem Utf8.encode_append (a b : String) : encode (a ++ b) = encode a ++ encode b := by
  simp [encode]

theorem unlines_nil : unlines [] = "" :=
  rfl

theorem unlines_cons (line : String) (lines : List String) :
    unlines (line :: lines) = line ++ "\n" ++ unlines lines := by
  simp [unlines, String.join_cons]

theorem unlines_append (lines more : List String) :
    unlines (lines ++ more) = unlines lines ++ unlines more := by
  induction lines with
  | nil => simp [unlines_nil]
  | cons line lines ih =>
    rw [List.cons_append, unlines_cons, unlines_cons, ih]
    simp only [String.append_assoc]

namespace Command.Listing

/-! ## The program -/

/-- What the command works on: the files, and all that it has printed. -/
structure Desk where
  files : FileTree
  printed : String

/-- Why the program stops: the command fails, or a check on the way does. -/
inductive Halt where
  | failure (failure : Failure)
  | fault (fault : Fault)
  deriving DecidableEq, Repr

/-- A program that changes files, prints, and stops at the first check that fails. -/
abbrev Act (α : Type) : Type := EStateM Halt Desk α

/-- Goes on with what was checked, or stops. -/
def require {α : Type} : Except Halt α → Act α
  | .ok a => pure a
  | .error e => throw e

/-- An action on the files. -/
def onFiles {α : Type} (action : FileTree.Action FileError α) : Act α := fun m =>
  match action m.files with
  | .ok a files => .ok a { m with files := files }
  | .error e files => .error (.failure (.file e)) { m with files := files }

/-- Writes an entry to the open file at `place`. -/
def writeEntry (place : List String) (entry : String) : Act Unit :=
  modify fun m => { m with files := m.files.append place (Utf8.encode (entry ++ "\n")) }

/-- Reads a line into tokens and writes its entries. Gives the number of its tokens. -/
def lineAct (place : List String) (number : Nat) (text : String) : Act Nat := do
  let line ← require ((Line.ofTextChecked text).mapError .fault)
  writeEntry place ("# line " ++ toString number ++ ": " ++ quote text)
  (line.tokens.zipIdx.map fun (t, index) => tokenEntry index t).forM (writeEntry place)
  (line.diagnostics.map diagnosticEntry).forM (writeEntry place)
  return line.tokens.length

/-- The same for one line after the other, where `total` tokens were written before. -/
def linesAct (place : List String) (number total : Nat) : List String → Act Nat
  | [] => return total
  | text :: rest => do
    let count ← lineAct place number text
    linesAct place (number + 1) (total + count) rest

/-- Reads the whole input. -/
def readAct (input : Path) : Act String := do
  let m ← get
  let bytes ← require ((m.files.read input).mapError fun e => .failure (.file e))
  require ((Utf8.decode bytes).mapError fun fault => .failure (.encoding fault))

/-- Opens the output, writes the entries of all lines, and says so. -/
def writeAct (texts : List String) (output : Path) : Act Unit := do
  let place ← onFiles (FileTree.openAt output)
  let total ← linesAct place 1 0 texts
  modify fun m => { m with
    printed := m.printed ++ ("Wrote " ++ toString total ++ " tokens from " ++
      toString texts.length ++ " lines to " ++ output.toString ++ "\n") }

/-- The command. The lines are split when every line end of the input is a line feed. -/
def act (s : Settings) : Act Unit := do
  let text ← readAct s.input
  match s.output with
  | none => throw (.failure .noOutput)
  | some output => writeAct (wideLines (String.ofList (feedOnly text.toList))) output

/-! ## Writing -/

section Writing

variable {t : FileTree} {place : List String} {old : List UInt8} {printed : String}

theorem run_writeEntry (h : place ≠ []) (entry : String) :
    (writeEntry place entry).run ⟨t.set place (.file old), printed⟩ =
      .ok () ⟨t.set place (.file (old ++ Utf8.encode (unlines [entry]))), printed⟩ := by
  simp [writeEntry, FileTree.append_set h, unlines_cons, unlines_nil]

theorem run_forM_writeEntry (h : place ≠ []) (entries : List String) :
    (entries.forM (writeEntry place)).run ⟨t.set place (.file old), printed⟩ =
      .ok () ⟨t.set place (.file (old ++ Utf8.encode (unlines entries))), printed⟩ := by
  induction entries generalizing old with
  | nil => simp [unlines_nil, Utf8.encode]
  | cons entry entries ih =>
    have hsteps : (entry :: entries).forM (writeEntry place) =
        (do writeEntry place entry; entries.forM (writeEntry place)) := rfl
    rw [hsteps, run_bind_of_ok (run_writeEntry h entry), ih, List.append_assoc,
      ← Utf8.encode_append, ← unlines_append]
    rfl

/-- A line is written as its entries, and nothing stops that. -/
theorem run_lineAct (h : place ≠ []) (number : Nat) (text : String) :
    (lineAct place number text).run ⟨t.set place (.file old), printed⟩ =
      .ok (tokensOf text).length ⟨t.set place (.file
        (old ++ Utf8.encode (unlines (lineEntries number (.ofText text))))), printed⟩ := by
  have hread : (require ((Line.ofTextChecked text).mapError Halt.fault)).run
      ⟨t.set place (.file old), printed⟩ =
        .ok (Line.ofText text) ⟨t.set place (.file old), printed⟩ := by
    rw [Line.ofTextChecked_eq]
    rfl
  rw [lineAct, run_bind_of_ok hread, run_bind_of_ok (run_writeEntry h _),
    run_bind_of_ok (run_forM_writeEntry h _), run_bind_of_ok (run_forM_writeEntry h _),
    List.append_assoc, List.append_assoc, ← Utf8.encode_append, ← Utf8.encode_append,
    ← unlines_append, ← unlines_append]
  rfl

/-- The entries of lines that are numbered from `first` on. -/
def entriesFrom (first : Nat) (lines : List Line) : List String :=
  (lines.zipIdx first).flatMap fun (line, number) => lineEntries number line

theorem entries_eq (lines : List Line) : entries lines = entriesFrom 1 lines :=
  rfl

theorem entriesFrom_cons (first : Nat) (line : Line) (lines : List Line) :
    entriesFrom first (line :: lines) = lineEntries first line ++ entriesFrom (first + 1) lines :=
  rfl

theorem tokenCount_cons (line : Line) (lines : List Line) :
    tokenCount (line :: lines) = line.tokens.length + tokenCount lines := by
  simp [tokenCount]

/-- Once the output is open, nothing stops the program. It writes the entries of all lines and
counts their tokens. -/
theorem run_linesAct (h : place ≠ []) (number total : Nat) (texts : List String) :
    (linesAct place number total texts).run ⟨t.set place (.file old), printed⟩ =
      .ok (total + tokenCount (texts.map .ofText)) ⟨t.set place (.file
        (old ++ Utf8.encode (unlines (entriesFrom number (texts.map .ofText))))), printed⟩ := by
  induction texts generalizing old number total with
  | nil => simp [linesAct, tokenCount, entriesFrom, unlines_nil, Utf8.encode]
  | cons text texts ih =>
    rw [linesAct, run_bind_of_ok (run_lineAct h number text), ih, List.append_assoc,
      ← Utf8.encode_append, ← unlines_append, ← entriesFrom_cons, Nat.add_assoc,
      ← Line.tokens_ofText, ← tokenCount_cons, ← List.map_cons]

end Writing

/-! ## The command -/

/-- The text that the file at the end of a path holds. -/
def readText (files : FileTree) (p : Path) : Except Failure String := do
  let bytes ← (files.read p).mapError .file
  (Utf8.decode bytes).mapError .encoding

section Run

variable {files files' : FileTree} {p output : Path} {s : Settings} {text printed : String}

theorem readLines_eq (files : FileTree) (p : Path) :
    readLines files p = (readText files p).map linesOf := by
  rw [readLines, readText]
  cases (files.read p).mapError Failure.file with
  | error e => rfl
  | ok bytes =>
    simp only [bind, Except.bind]
    cases (Utf8.decode bytes).mapError Failure.encoding <;> rfl

/-- To read the input changes nothing. -/
theorem run_readAct (p : Path) (m : Desk) :
    (readAct p).run m =
      match readText m.files p with
      | .ok text => .ok text m
      | .error failure => .error (.failure failure) m := by
  rw [readAct, run_bind_of_ok (EStateM.run_get m), readText]
  cases hread : m.files.read p with
  | error e => rfl
  | ok bytes =>
    have hbytes : (require ((Except.ok bytes : Except FileError _).mapError fun e =>
        Halt.failure (.file e))).run m = .ok bytes m := rfl
    rw [run_bind_of_ok hbytes]
    simp only [Except.mapError, bind, Except.bind]
    cases Utf8.decode bytes <;> rfl

theorem wideLines_feedOnly (text : String) :
    wideLines (String.ofList (feedOnly text.toList)) = wideLines text := by
  rw [wideLines, String.toList_ofList, splitLines_feedOnly rfl rfl, wideLines]

theorem unlines_summary (texts : List String) (output : Path) :
    unlines [summary (texts.map .ofText) output] =
      "Wrote " ++ toString (tokenCount (texts.map .ofText)) ++ " tokens from " ++
        toString texts.length ++ " lines to " ++ output.toString ++ "\n" := by
  simp [unlines_cons, unlines_nil, summary]

/-- The listing of `lines` in bytes. -/
def listingBytes (lines : List Line) : List UInt8 :=
  Utf8.encode (unlines (entries lines))

/-- The output cannot be opened, which leaves at most new directories behind, or the whole listing
is written. -/
theorem writeAct_cases (texts : List String) (output : Path) (files : FileTree) (printed : String) :
    (∃ failure files', (∀ place t, FileTree.openAt output files ≠ .ok place t) ∧
      files.AddsDirectories files' ∧
      writeListing (texts.map .ofText) output files = .error failure files' ∧
      (writeAct texts output).run ⟨files, printed⟩ = .error (.failure failure) ⟨files', printed⟩) ∨
    ∃ files' place, (∃ t, FileTree.openAt output files = .ok place t) ∧
      files.AddsDirectories files' ∧ files'.locate output = .ok place ∧
      files'.node? place ≠ some .directory ∧
      writeListing (texts.map .ofText) output files =
        .ok () (files'.set place (.file (listingBytes (texts.map .ofText)))) ∧
      (writeAct texts output).run ⟨files, printed⟩ =
        .ok () ⟨files'.set place (.file (listingBytes (texts.map .ofText))),
          printed ++ unlines [summary (texts.map .ofText) output]⟩ := by
  rw [writeListing, FileTree.place_eq, writeAct]
  -- Once the output is open nothing fails any more.
  rcases FileTree.openAt_cases output files with
    ⟨e, files', hopened, hadds⟩ | ⟨files', place, hadds, hlocate, hplace, hopened⟩
  · have hstep : (onFiles (FileTree.openAt output)).run ⟨files, printed⟩ =
        .error (.failure (.file e)) ⟨files', printed⟩ := by
      simp only [EStateM.run, onFiles, hopened]
    exact .inl ⟨.file e, files', by simp [hopened], hadds, by rw [hopened],
      run_bind_of_error hstep _⟩
  · have hstep : (onFiles (FileTree.openAt output)).run ⟨files, printed⟩ =
        .ok place ⟨files'.set place (.file []), printed⟩ := by
      simp only [EStateM.run, onFiles, hopened]
    -- The top is a directory, so that the place of the output has a name, and the entries go there.
    have hne := FileTree.ne_nil_of_node?_ne_directory hplace
    refine .inr ⟨files', place, ⟨_, hopened⟩, hadds, hlocate, hplace, ?_, ?_⟩
    · rw [hopened]
      dsimp only
      rw [FileTree.set_set]
      rfl
    · rw [run_bind_of_ok hstep, run_bind_of_ok (run_linesAct hne 1 0 texts), unlines_summary,
        Nat.zero_add, List.nil_append]
      rfl

/-- **Steps.** The program of the command does what the command does, and prints what the command
gives. No check on its way fails but those by which the command fails. -/
theorem run_act (s : Settings) (files : FileTree) (printed : String) :
    (act s).run ⟨files, printed⟩ =
      match execute s files with
      | .ok summary files' => .ok () ⟨files', printed ++ unlines [summary]⟩
      | .error failure files' => .error (.failure failure) ⟨files', printed⟩ := by
  have hread := run_readAct s.input ⟨files, printed⟩
  rw [act, execute, readLines_eq]
  cases htext : readText files s.input with
  | error failure =>
    rw [htext] at hread
    rw [run_bind_of_error hread]
    rfl
  | ok text =>
    rw [htext] at hread
    rw [run_bind_of_ok hread]
    cases s.output with
    | none => rfl
    | some output =>
      dsimp only [Except.map]
      rw [wideLines_feedOnly, linesOf]
      rcases writeAct_cases (wideLines text) output files printed with
        ⟨failure, files', -, -, hwritten, hrun⟩ | ⟨files', place, -, -, -, -, hwritten, hrun⟩
      all_goals rw [hwritten, hrun]

/-- The input holds a text, and the output can be opened. -/
def IsReady (s : Settings) (files : FileTree) : Prop :=
  (∃ text, readText files s.input = .ok text) ∧
    ∃ output place t, s.output = some output ∧ FileTree.openAt output files = .ok place t

/-- The command fails with at most new directories, or its input holds a text, of which the whole
listing stands at the end of the path of the output. -/
theorem execute_cases (s : Settings) (files : FileTree) :
    (∃ failure files', ¬ IsReady s files ∧ files.AddsDirectories files' ∧
      execute s files = .error failure files') ∨
    ∃ text output files' place, IsReady s files ∧ readText files s.input = .ok text ∧
      s.output = some output ∧ files.AddsDirectories files' ∧ files'.locate output = .ok place ∧
      files'.node? place ≠ some .directory ∧
      execute s files = .ok (summary (linesOf text) output)
        (files'.set place (.file (listingBytes (linesOf text)))) := by
  rw [execute, readLines_eq]
  cases htext : readText files s.input with
  | error failure =>
    exact .inl ⟨failure, files, by simp [IsReady, htext], .refl files, rfl⟩
  | ok text =>
    cases houtput : s.output with
    | none => exact .inl ⟨.noOutput, files, by simp [IsReady, houtput], .refl files, rfl⟩
    | some output =>
      dsimp only [Except.map]
      rcases writeAct_cases (wideLines text) output files "" with
        ⟨failure, files', hnot, hadds, hwritten, -⟩ |
        ⟨files', place, ⟨t, hopened⟩, hadds, hlocate, hplace, hwritten, -⟩
      · refine .inl ⟨failure, files', ?_, hadds, by rw [linesOf, hwritten]⟩
        rintro ⟨-, output', place, t, hsome, hopened⟩
        cases houtput.symm.trans hsome
        exact hnot place t hopened
      · exact .inr ⟨text, output, files', place,
          ⟨⟨text, htext⟩, output, place, t, houtput, hopened⟩,
          rfl, rfl, hadds, hlocate, hplace, by rw [linesOf, hwritten]⟩

/-- A command that completes leaves the listing of its input in its output, and says so. -/
theorem run_of_completed {arguments : List String} (hs : settings arguments = .ok s)
    (h : (run arguments files).1.ending = .completed) :
    ∃ text output, readText files s.input = .ok text ∧ s.output = some output ∧
      (run arguments files).2.read output = .ok (listingBytes (linesOf text)) ∧
      (run arguments files).1.output = unlines [summary (linesOf text) output] := by
  rcases execute_cases s files with
    ⟨failure, files', -, -, hexecute⟩ |
    ⟨text, output, files', place, -, htext, houtput, -, hlocate, hplace, hexecute⟩
  · simp only [run, hs, hexecute] at h
    cases h
  · simp only [run, hs, hexecute]
    exact ⟨text, output, htext, houtput, FileTree.read_set_of_locate hlocate hplace _, rfl⟩

end Run

/-- **All or nothing.** Let the arguments be in order. The command completes iff its input holds a
text and its output can be opened, and fails otherwise; done step by step, its work comes to the
same, and nothing else stops it. When it fails, it has printed nothing, every file has its content
still, at its place and by every path that leads there, and no file is new. When it completes, the
output holds the listing of the text that the input held before, even if they are one file, and
every other file has its content still. -/
theorem failed_listing_keeps_files (arguments : List String) (files : FileTree) {s : Settings}
    (hs : settings arguments = .ok s) :
    let report := (run arguments files).1
    let after := (run arguments files).2
    (IsReady s files → report.ending = .completed ∧
      (act s).run ⟨files, ""⟩ = .ok () ⟨after, report.output⟩ ∧
      ∃ text output, readText files s.input = .ok text ∧ s.output = some output ∧
        after.read output = .ok (listingBytes (linesOf text)) ∧
        report.output = unlines [summary (linesOf text) output] ∧
        ∃ place, after.node? place = some (.file (listingBytes (linesOf text))) ∧
          ∀ other ≠ place, ∀ bytes,
            after.node? other = some (.file bytes) ↔ files.node? other = some (.file bytes)) ∧
    (¬ IsReady s files → ∃ failure, report.ending = .failed failure ∧ report.output = "" ∧
      (act s).run ⟨files, ""⟩ = .error (.failure failure) ⟨after, ""⟩ ∧
      (∀ place bytes,
        after.node? place = some (.file bytes) ↔ files.node? place = some (.file bytes)) ∧
      ∀ p bytes, files.read p = .ok bytes → after.read p = .ok bytes) := by
  intro report after
  have hsteps := run_act s files ""
  rcases execute_cases s files with
    ⟨failure, files', hnot, hadds, hexecute⟩ |
    ⟨text, output, files', place, hready, htext, houtput, hadds, hlocate, hplace, hexecute⟩
  · have hrun : run arguments files = (⟨"", "", .failed failure⟩, files') := by
      simp only [run, hs, hexecute]
    rw [hexecute] at hsteps
    refine ⟨fun h => absurd h hnot, fun _ => ⟨failure, ?_⟩⟩
    simp only [report, after, hrun]
    exact ⟨trivial, trivial, hsteps, hadds.node?_file_iff, fun _ _ => hadds.read_eq⟩
  · have hrun : run arguments files = (⟨unlines [summary (linesOf text) output], "", .completed⟩,
        files'.set place (.file (listingBytes (linesOf text)))) := by
      simp only [run, hs, hexecute]
    have hne := FileTree.ne_nil_of_node?_ne_directory hplace
    rw [hexecute] at hsteps
    refine ⟨fun _ => ?_, fun h => absurd hready h⟩
    simp only [report, after, hrun]
    refine ⟨trivial, hsteps, text, output, htext, houtput,
      FileTree.read_set_of_locate hlocate hplace _, rfl, place, ?_, ?_⟩
    · rw [FileTree.node?_set hne, if_pos rfl]
    · intro other hother bytes
      rw [FileTree.node?_set hne, if_neg hother]
      exact hadds.node?_file_iff other bytes

/-- One call writes the listing over its input. The other one finds a directory in the place of its
output, behind two directories that it has made. -/
theorem failed_listing_keeps_files_same_file :
    let text := "x\x0B$ '"
    let files : FileTree := ⟨[(["home"], .directory), (["home", "d"], .directory),
      (["home", "in.txt"], .file (Utf8.encode text))], ["home"]⟩
    let input : Path := ⟨"", ["in.txt"]⟩
    let same := ["in.txt", "--output", "./in.txt"]
    let blocked := ["--output=a/b/../../d", "in.txt"]
    settings same = .ok { input := input, output := some input } ∧
      IsReady { input := input, output := some input } files ∧
      (run same files).2.read input = .ok (listingBytes (linesOf text)) ∧
      settings blocked = .ok { input := input, output := some ⟨"", ["a", "b", "..", "..", "d"]⟩ } ∧
      ¬ IsReady { input := input, output := some ⟨"", ["a", "b", "..", "..", "d"]⟩ } files ∧
      (run blocked files).2 ≠ files ∧
      (run blocked files).2.read input = .ok (Utf8.encode text) := by
  intro text files input same blocked
  have hsame : settings same = .ok { input := input, output := some input } := by decide +kernel
  have hblocked : settings blocked =
      .ok { input := input, output := some ⟨"", ["a", "b", "..", "..", "d"]⟩ } := by decide +kernel
  have hread : files.read input = .ok (Utf8.encode text) := by decide +kernel
  have htext : readText files input = .ok text := by decide +kernel
  have hready : IsReady { input := input, output := some input } files :=
    ⟨⟨text, htext⟩, input, ["home", "in.txt"], _, rfl, rfl⟩
  have hclosed : (match FileTree.openAt ⟨"", ["a", "b", "..", "..", "d"]⟩ files with
      | .ok _ _ => true
      | .error _ _ => false) = false := by decide +kernel
  have hnot :
      ¬ IsReady { input := input, output := some ⟨"", ["a", "b", "..", "..", "d"]⟩ } files := by
    rintro ⟨-, output, place, t, ⟨⟩, hopened⟩
    rw [hopened] at hclosed
    cases hclosed
  obtain ⟨-, -, text', output, htext', houtput, hwritten, -⟩ :=
    (failed_listing_keeps_files same files hsame).1 hready
  cases htext.symm.trans htext'
  cases houtput
  obtain ⟨failure, -, -, -, -, hkept⟩ := (failed_listing_keeps_files blocked files hblocked).2 hnot
  exact ⟨hsame, hready, hwritten, hblocked, hnot, by decide +kernel, hkept input _ hread⟩

end Command.Listing

end Numeral
