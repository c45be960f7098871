import Numeral.Command.Check
import Numeral.Proofs.SessionValidity
import Numeral.Proofs.Utf8

/-!
# The status of the check command

The command can be called in many ways on one text: the text stands in a file or comes from the
standard input, with a person at it or not, and the options choose what is said of it. Of all that
the status depends on the text and the sentinel alone.

- `Session.isValid_transcript_congr`: whether a session is valid depends on no setting but the
  sentinel.
- `Check.Invocation.Reads`: the command is called on this text, with this sentinel.
- `Check.Invocation.HasInput.run_eq`: what it does is to report on the lines of the text.
- `status_decided_by_text`: any two calls on one text end with the same status.
-/

namespace Numeral

/-! ## Verdicts -/

/-- Two sessions with one sentinel are valid on the same lines. -/
theorem Session.isValid_transcript_congr {a b : Settings} (h : a.sentinel = b.sentinel)
    (lines : List String) :
    (transcript a lines).result.isValid = (transcript b lines).result.isValid := by
  by_cases hmem : a.sentinel ∈ lines
  · obtain ⟨before, behind, rfl, hbefore⟩ := List.eq_append_cons_of_mem hmem
    have hbefore' : b.sentinel ∉ before := h ▸ hbefore
    have hlines : transcript b (before ++ a.sentinel :: behind) =
        transcript b (before ++ b.sentinel :: behind) := by rw [h]
    rw [hlines]
    cases behind with
    | nil =>
      rw [Result.isValid, Result.isValid, (expression_transcript_none hbefore).2,
        (expression_transcript_none hbefore').2]
    | cons e rest =>
      exact Bool.eq_iff_iff.mpr
        ((isValid_transcript hbefore).trans (isValid_transcript hbefore').symm)
  · have hmem' : b.sentinel ∉ lines := h ▸ hmem
    rw [Result.isValid, Result.isValid, (expression_transcript_none hmem).1,
      (expression_transcript_none hmem').1]

/-! ## Inputs -/

theorem LineStream.ofBytes_encode (text : String) : ofBytes (Utf8.encode text) = ofText text := by
  rw [ofBytes, Utf8.decode_encode]

theorem FileTree.read_of_find? {files : FileTree} {path : Path} {bytes : List UInt8}
    (h : files.find? path = some (.file bytes)) : files.read path = .ok bytes := by
  rw [find?] at h
  cases hlocate : files.locate path with
  | error e =>
    rw [hlocate] at h
    cases h
  | ok place =>
    rw [hlocate] at h
    simp only at h
    simp only [read, hlocate, bind, Except.bind, h]

namespace Command.Check

/-- A file that holds the bytes of a text has its lines. -/
theorem openFile_of_find? {files : FileTree} {path : Path} {text : String}
    (h : files.find? path = some (.file (Utf8.encode text))) :
    openFile files path = .ok (.ofText text) := by
  rw [openFile, FileTree.read_of_find? h]
  simp only [LineStream.ofBytes_encode]
  rfl

/-- A call of the command: its arguments, the files, the standard input and whether a person is at
it. -/
structure Invocation where
  arguments : List String
  files : FileTree
  standardInput : String
  isTerminal : Bool

namespace Invocation

/-- What the command reports. -/
def run (i : Invocation) : Report FileError :=
  Check.run i.arguments i.files i.standardInput i.isTerminal

/-- The input that these settings choose is `text`: that of the file that is named, or else the
standard input. -/
def HasInput (i : Invocation) (s : Settings) (text : String) : Prop :=
  match s.input with
  | some path => i.files.find? path = some (.file (Utf8.encode text))
  | none => i.standardInput = text

/-- The arguments are in order, and give settings with this sentinel under which the input is
`text`. -/
def Reads (i : Invocation) (text sentinel : String) : Prop :=
  ∃ s, settings i.arguments = .ok s ∧ s.sentinel = sentinel ∧ i.HasInput s text

variable {i : Invocation} {s : Settings} {text : String}

theorem HasInput.openInput_eq (h : i.HasInput s text) :
    openInput s i.files i.standardInput = .ok (.ofText text) := by
  rw [HasInput] at h
  rw [openInput]
  cases hinput : s.input with
  | none =>
    rw [hinput] at h
    simp only at h
    simp only [h]
  | some path =>
    rw [hinput] at h
    exact openFile_of_find? h

/-- With a sentinel that is not empty the command reports on a session on the lines of the text. -/
theorem HasInput.run_eq (h : i.HasInput s text) (hs : settings i.arguments = .ok s)
    {options : Session.Settings} (hoptions : s.sessionSettings i.isTerminal = .ok options) :
    i.run =
      ⟨unlines (transcriptLines s.listTokens (Session.transcript options (plainLines text))), "",
        .status (status (Session.transcript options (plainLines text)).result)⟩ := by
  simp only [run, Check.run, hs, hoptions, h.openInput_eq]
  rfl

end Invocation

theorem Settings.exists_sessionSettings {s : Settings} (h : s.sentinel ≠ "") (isTerminal : Bool) :
    ∃ options, s.sessionSettings isTerminal = .ok options ∧ options.sentinel = s.sentinel :=
  ⟨_, dif_neg h, rfl⟩

/-- A call on `text` ends with the status of any session with its sentinel on the lines of the
text. -/
theorem Invocation.Reads.ending_eq {i : Invocation} {text : String} {options : Session.Settings}
    (h : i.Reads text options.sentinel) :
    i.run.ending = .status (status (Session.transcript options (plainLines text)).result) := by
  obtain ⟨s, hs, hsentinel, hinput⟩ := h
  obtain ⟨own, hown, hownSentinel⟩ :=
    Settings.exists_sessionSettings (hsentinel ▸ options.sentinel_ne_empty) i.isTerminal
  have hvalid := Session.isValid_transcript_congr (hownSentinel.trans hsentinel) (plainLines text)
  rw [hinput.run_eq hs hown, status, status, hvalid]

end Command.Check

/-- **The status depends on the text and the sentinel.** Calls of the command that read one text
with one sentinel end with one status, whether they read it from a file or from the standard input
and whatever else their arguments ask for. It is zero iff a session with that sentinel on the lines
of the text is valid, and one otherwise. -/
theorem status_decided_by_text (text : String) (settings : Session.Settings)
    {i j : Command.Check.Invocation} (hi : i.Reads text settings.sentinel)
    (hj : j.Reads text settings.sentinel) :
    i.run.ending = j.run.ending ∧
      i.run.ending =
        .status (if (Session.transcript settings (plainLines text)).result.isValid then 0 else 1) :=
  ⟨hi.ending_eq.trans hj.ending_eq.symm, hi.ending_eq⟩

/-- The sentinel is the expression too, and a line is left behind it. The text stands in a file and
comes from a terminal. -/
theorem status_decided_by_text_sentinel_twice :
    let text := "bin x 1;\r\nx\r\nx\r\nlate"
    let file : Command.Check.Invocation := {
      arguments := ["--report-all", "--sentinel=x", "s.txt", "--dump-tokens"]
      files := ⟨[(["home"], .directory), (["home", "s.txt"], .file (Utf8.encode text))], ["home"]⟩
      standardInput := ""
      isTerminal := true }
    let terminal : Command.Check.Invocation := {
      arguments := ["--sent", "x"], files := .empty [], standardInput := text, isTerminal := true }
    file.Reads text "x" ∧ terminal.Reads text "x" ∧ file.run.ending = terminal.run.ending ∧
      file.run.ending = .status 0 := by
  intro text file terminal
  have hfind : file.files.find? ⟨"", ["s.txt"]⟩ = some (.file (Utf8.encode text)) := by
    decide +kernel
  have hfile : file.Reads text "x" :=
    ⟨{ input := some ⟨"", ["s.txt"]⟩, sentinel := "x", reportAll := true, listTokens := true },
      by decide +kernel, rfl, hfind⟩
  have hterminal : terminal.Reads text "x" := ⟨{ sentinel := "x" }, by decide +kernel, rfl, rfl⟩
  obtain ⟨hsame, hstatus⟩ :=
    status_decided_by_text text { sentinel := "x", sentinel_ne_empty := by decide } hfile hterminal
  exact ⟨hfile, hterminal, hsame, hstatus.trans (by decide +kernel)⟩

end Numeral
