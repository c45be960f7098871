import Numeral.Proofs.LineDiagnostics
import Numeral.Proofs.ListingSteps
import Numeral.Proofs.QuotedText
import Numeral.Proofs.Utf8

/-!
# The text of a listing

A listing is one text file with three kinds of entries. No entry holds a line end, so that the lines
of the file are the entries; the first characters of an entry tell its kind; and the headings alone
give the lines back that were listed.

- `wideLines_unlines`, `encode_unlines_inj`: entries without line ends are told from their text.
- `isOneLine_of_mem_entries`: no entry of a listing holds a line end.
- `Record`, `map_recordOf?_entriesFrom`: the kinds of the entries, in their order.
- `entriesFrom_injective`, `listingBytes_inj`: the listing tells the lines.
- `completed_listing_unambiguous`: what the command has written when it completes.
-/

namespace Numeral

/-! ## Lines of a text that is made of entries -/

section Unlines

variable {ends : Char → Bool} {lines : List String}

/-- Entries that hold no line end are the lines of the text that they make up. -/
theorem splitLines_unlines (hfeed : ends '\n' = true)
    (h : ∀ line ∈ lines, ∀ c ∈ line.toList, ends c = false) :
    splitLines ends (unlines lines).toList = lines.map String.toList := by
  induction lines with
  | nil => rfl
  | cons line lines ih =>
    rw [List.forall_mem_cons] at h
    have hrest : splitLines ends ('\n' :: (unlines lines).toList) =
        [] :: splitLines ends (unlines lines).toList := splitLines_lineEnd hfeed (by simp)
    rw [unlines_cons, String.toList_append, String.toList_append, List.append_assoc,
      List.map_cons, ← ih h.2]
    exact splitLines_append_of_nil h.1 hrest

theorem wideLines_unlines (h : ∀ line ∈ lines, IsOneLine line) :
    wideLines (unlines lines) = lines := by
  rw [wideLines, splitLines_unlines rfl h]
  simp

theorem plainLines_unlines (h : ∀ line ∈ lines, IsOneLine line) :
    plainLines (unlines lines) = lines := by
  have hplain : ∀ line ∈ lines, ∀ c ∈ line.toList, isPlainLineEnd c = false :=
    fun line hline c hc => (Bool.or_eq_false_iff.mp (h line hline c hc)).1
  rw [plainLines, splitLines_unlines rfl hplain]
  simp

/-- Every entry ends with the one line feed behind it. -/
theorem count_feed_unlines (h : ∀ line ∈ lines, IsOneLine line) :
    (unlines lines).toList.count '\n' = lines.length := by
  induction lines with
  | nil => rfl
  | cons line lines ih =>
    rw [List.forall_mem_cons] at h
    have hline : line.toList.count '\n' = 0 :=
      List.count_eq_zero.mpr fun hmem => Bool.noConfusion (h.1 '\n' hmem)
    rw [unlines_cons, String.toList_append, String.toList_append, List.count_append,
      List.count_append, hline, ih h.2, Nat.zero_add, Nat.add_comm]
    rfl

/-- Entries that hold no line end are told from the bytes of their text. -/
theorem encode_unlines_inj {lines' : List String} (h : ∀ line ∈ lines, IsOneLine line)
    (h' : ∀ line ∈ lines', IsOneLine line) :
    Utf8.encode (unlines lines) = Utf8.encode (unlines lines') ↔ lines = lines' := by
  refine ⟨fun hbytes => ?_, fun hlines => by rw [hlines]⟩
  have hdecoded := Utf8.decode_encode (unlines lines)
  rw [hbytes, Utf8.decode_encode] at hdecoded
  rw [← plainLines_unlines h, ← Except.ok.inj hdecoded, plainLines_unlines h']

end Unlines

/-! ## Entries on one line -/

@[simp]
theorem Span.isOneLine_bracketed (span : Span) : IsOneLine span.bracketed := by
  have hmarks : IsOneLine "(" ∧ IsOneLine ", " ∧ IsOneLine ")" := by decide
  simp [bracketed, hmarks]

@[simp]
theorem Kind.isOneLine_name (kind : Kind) : IsOneLine kind.name := by
  have hall : ∀ kind ∈ Kind.all, IsOneLine kind.name := by decide
  exact hall kind (mem_all kind)

namespace Command.Listing

private theorem isOneLine_heading (number : Nat) (text : String) :
    IsOneLine ("# line " ++ toString number ++ ": " ++ quote text) := by
  have hmarks : IsOneLine "# line " ∧ IsOneLine ": " := by decide
  simp [hmarks]

private theorem isOneLine_tokenEntry (index : Nat) (t : Token) :
    IsOneLine (tokenEntry index t) := by
  have hmarks : IsOneLine "[" ∧ IsOneLine "] kind=" ∧ IsOneLine " text=" ∧ IsOneLine " range=" := by
    decide
  simp [tokenEntry, hmarks]

/-- A diagnostic of an invalid character shows this one in quotes. -/
theorem isOneLine_diagnosticEntry (t : Token) : IsOneLine (diagnosticEntry t.complaint) := by
  have hmarks : IsOneLine "! " ∧ IsOneLine Diagnostic.Code.invalidCharacter.name ∧
      IsOneLine " range=" ∧ IsOneLine " " ∧ IsOneLine "Unrecognized character " ∧
      IsOneLine "." := by
    decide
  simp [diagnosticEntry, Token.complaint, Diagnostic.Code.report, hmarks]

private theorem isOneLine_of_mem_lineEntries {number : Nat} {text entry : String}
    (h : entry ∈ lineEntries number (.ofText text)) : IsOneLine entry := by
  rw [lineEntries, Line.diagnostics_ofText] at h
  rcases List.mem_append.mp h with h | h
  · rcases List.mem_cons.mp h with rfl | h
    · exact isOneLine_heading number text
    · obtain ⟨⟨t, index⟩, -, rfl⟩ := List.mem_map.mp h
      exact isOneLine_tokenEntry index t
  · obtain ⟨d, hd, rfl⟩ := List.mem_map.mp h
    obtain ⟨t, -, rfl⟩ := List.mem_map.mp hd
    exact isOneLine_diagnosticEntry t

/-- No entry of a listing holds a line end, whatever the lines hold. -/
theorem isOneLine_of_mem_entries {text entry : String} (h : entry ∈ entries (linesOf text)) :
    IsOneLine entry := by
  obtain ⟨⟨line, number⟩, hline, h⟩ := List.mem_flatMap.mp h
  obtain ⟨source, -, rfl⟩ := List.mem_map.mp (List.fst_mem_of_mem_zipIdx hline)
  exact isOneLine_of_mem_lineEntries h

/-! ## Kinds of entries -/

/-- What an entry is about. -/
inductive Record where
  | heading
  | token
  | diagnostic
  deriving DecidableEq, Repr

/-- The characters that an entry of the kind begins with. -/
def Record.mark : Record → String
  | heading => "# line "
  | token => "["
  | diagnostic => "! "

/-- What an entry is about, told from its first characters. -/
def recordOf? (entry : String) : Option Record :=
  [Record.heading, .token, .diagnostic].find? fun r => r.mark.toList.isPrefixOf entry.toList

theorem recordOf?_append (r : Record) (rest : String) : recordOf? (r.mark ++ rest) = some r := by
  rw [recordOf?, String.toList_append]
  cases r <;> rfl

/-- The kinds of the entries of a line: one heading, one for each token, one for each invalid
token. -/
def recordsOf (line : Line) : List Record :=
  .heading :: List.replicate line.tokens.length .token ++
    List.replicate (line.tokens.countP (·.kind = .invalid)) .diagnostic

private theorem recordOf?_heading (number : Nat) (text : String) :
    recordOf? ("# line " ++ toString number ++ ": " ++ quote text) = some .heading := by
  simp only [String.append_assoc]
  exact recordOf?_append .heading _

private theorem recordOf?_tokenEntry (index : Nat) (t : Token) :
    recordOf? (tokenEntry index t) = some .token := by
  simp only [tokenEntry, String.append_assoc]
  exact recordOf?_append .token _

private theorem recordOf?_diagnosticEntry (d : Diagnostic) :
    recordOf? (diagnosticEntry d) = some .diagnostic := by
  simp only [diagnosticEntry, String.append_assoc]
  exact recordOf?_append .diagnostic _

private theorem map_recordOf?_of_forall {r : Record} {es : List String}
    (h : ∀ e ∈ es, recordOf? e = some r) :
    es.map recordOf? = (List.replicate es.length r).map some := by
  rw [List.map_replicate]
  exact List.map_eq_replicate_iff.mpr h

theorem map_recordOf?_lineEntries (number : Nat) (text : String) :
    (lineEntries number (.ofText text)).map recordOf? = (recordsOf (.ofText text)).map some := by
  have hcount : (complaints (tokensOf text)).length =
      (tokensOf text).countP (·.kind = .invalid) := by
    rw [complaints, List.length_map, List.countP_eq_length_filter]
  rw [lineEntries, Line.diagnostics_ofText, Line.tokens_ofText, List.map_append, List.map_cons,
    recordOf?_heading, map_recordOf?_of_forall (r := .token),
    map_recordOf?_of_forall (r := .diagnostic)]
  · rw [List.length_map, List.length_map, List.length_zipIdx, hcount, recordsOf,
      Line.tokens_ofText, List.map_append, List.map_cons]
  · intro e he
    obtain ⟨d, -, rfl⟩ := List.mem_map.mp he
    exact recordOf?_diagnosticEntry d
  · intro e he
    obtain ⟨⟨t, index⟩, -, rfl⟩ := List.mem_map.mp he
    exact recordOf?_tokenEntry index t

theorem map_recordOf?_entriesFrom (first : Nat) (texts : List String) :
    (entriesFrom first (texts.map .ofText)).map recordOf? =
      ((texts.map Line.ofText).flatMap recordsOf).map some := by
  induction texts generalizing first with
  | nil => rfl
  | cons text texts ih =>
    rw [List.map_cons, entriesFrom_cons, List.map_append, ih, map_recordOf?_lineEntries,
      List.flatMap_cons, List.map_append]

private theorem length_flatMap_recordsOf (lines : List Line) :
    (lines.flatMap recordsOf).length =
      lines.length + tokenCount lines + (lines.flatMap (·.tokens)).countP (·.kind = .invalid) := by
  induction lines with
  | nil => rfl
  | cons line lines ih =>
    rw [List.flatMap_cons, List.length_append, ih, tokenCount_cons, List.flatMap_cons,
      List.countP_append, List.length_cons, recordsOf]
    simp only [List.length_append, List.length_cons, List.length_replicate]
    omega

theorem length_entries (text : String) :
    (entries (linesOf text)).length = (linesOf text).length + tokenCount (linesOf text) +
      ((linesOf text).flatMap (·.tokens)).countP (·.kind = .invalid) := by
  rw [← length_flatMap_recordsOf, ← List.length_map recordOf?, entries_eq, linesOf,
    map_recordOf?_entriesFrom, List.length_map]

/-! ## Reading the lines back -/

theorem lineEntries_injective {number : Nat} {a b : String} {as bs : List String}
    (h : lineEntries number (.ofText a) ++ as = lineEntries number (.ofText b) ++ bs) :
    a = b ∧ as = bs := by
  have hheading : "# line " ++ toString number ++ ": " ++ quote a =
      "# line " ++ toString number ++ ": " ++ quote b := (List.cons.inj h).1
  have htext : a = b :=
    quote_injective (String.toList_inj.mp (List.append_cancel_left
      (by simpa only [String.toList_append] using congrArg String.toList hheading)))
  subst htext
  exact ⟨rfl, List.append_cancel_left h⟩

/-- The headings alone tell the lines. -/
theorem entriesFrom_injective {first : Nat} {as bs : List String}
    (h : entriesFrom first (as.map .ofText) = entriesFrom first (bs.map .ofText)) : as = bs := by
  induction as generalizing first bs with
  | nil =>
    cases bs with
    | nil => rfl
    | cons b bs => cases h
  | cons a as ih =>
    cases bs with
    | nil => cases h
    | cons b bs =>
      rw [List.map_cons, List.map_cons, entriesFrom_cons, entriesFrom_cons] at h
      obtain ⟨rfl, hrest⟩ := lineEntries_injective h
      rw [ih hrest]

/-- Two texts have one listing iff they have the same lines. -/
theorem listingBytes_inj (a b : String) :
    listingBytes (linesOf a) = listingBytes (linesOf b) ↔ wideLines a = wideLines b := by
  rw [listingBytes, listingBytes, encode_unlines_inj (fun _ => isOneLine_of_mem_entries)
    (fun _ => isOneLine_of_mem_entries)]
  exact ⟨fun h => entriesFrom_injective h, fun h => by rw [linesOf, linesOf, h]⟩

/-! ## The command -/

/-- A call completes, where the input holds `text` and `output` is the path of the output. -/
structure Completes (arguments : List String) (files : FileTree) (text : String) (output : Path) :
    Prop where
  ending_eq : (run arguments files).1.ending = .completed
  settings_eq : ∃ s, settings arguments = .ok s ∧ readText files s.input = .ok text ∧
    s.output = some output

private theorem exists_settings_of_completed {arguments : List String} {files : FileTree}
    (h : (run arguments files).1.ending = .completed) : ∃ s, settings arguments = .ok s := by
  cases hs : settings arguments with
  | ok s => exact ⟨s, rfl⟩
  | error stop =>
    rw [run, hs] at h
    cases stop <;> cases h

theorem Completes.read_output {arguments : List String} {files : FileTree} {text : String}
    {output : Path} (h : Completes arguments files text output) :
    (run arguments files).2.read output = .ok (listingBytes (linesOf text)) := by
  obtain ⟨s, hs, htext, houtput⟩ := h.settings_eq
  obtain ⟨text', output', htext', houtput', hwritten, -⟩ := run_of_completed hs h.ending_eq
  cases htext.symm.trans htext'
  cases houtput.symm.trans houtput'
  exact hwritten

/-- **An unambiguous listing.** When the command completes, its input holds a text, and its output
holds one entry for each line of the text, one for each token and one for each invalid token, every
one with a line feed behind it. The entries are the lines of the output, whichever line ends are
looked for, so that no character of the input makes a further one. Their first characters tell their
kinds: of every line the heading, then its tokens, then its diagnostics. The numbers of tokens and
of lines are printed. What another call has written is the same iff its input has the same lines. -/
theorem completed_listing_unambiguous {arguments : List String} {files : FileTree}
    (h : (run arguments files).1.ending = .completed) :
    ∃ text output, Completes arguments files text output ∧
      let lines := linesOf text
      let tokens := lines.flatMap (·.tokens)
      let listing := unlines (entries lines)
      (run arguments files).2.read output = .ok (Utf8.encode listing) ∧
      (run arguments files).1.output = "Wrote " ++ toString tokens.length ++ " tokens from " ++
        toString lines.length ++ " lines to " ++ output.toString ++ "\n" ∧
      tokens.length = (lines.map (·.tokens.length)).sum ∧
      wideLines listing = entries lines ∧ plainLines listing = entries lines ∧
      (entries lines).length =
        lines.length + tokens.length + tokens.countP (·.kind = .invalid) ∧
      listing.toList.count '\n' = (entries lines).length ∧
      (entries lines).map recordOf? = (lines.flatMap recordsOf).map some ∧
      ∀ (arguments' : List String) (files' : FileTree) (text' : String) (output' : Path),
        Completes arguments' files' text' output' →
          ((run arguments' files').2.read output' = (run arguments files).2.read output ↔
            wideLines text' = wideLines text) := by
  -- Whatever the text holds, every entry is one line, so that the entries can be told apart.
  obtain ⟨s, hs⟩ := exists_settings_of_completed h
  obtain ⟨text, output, htext, houtput, hwritten, hprinted⟩ := run_of_completed hs h
  have hone : ∀ entry ∈ entries (linesOf text), IsOneLine entry := fun _ => isOneLine_of_mem_entries
  refine ⟨text, output, ⟨h, s, hs, htext, houtput⟩, hwritten, ?_, List.length_flatMap,
    wideLines_unlines hone, plainLines_unlines hone, length_entries text, count_feed_unlines hone,
    map_recordOf?_entriesFrom 1 (wideLines text), ?_⟩
  · rw [hprinted, linesOf, unlines_summary, List.length_map]
    rfl
  · intro arguments' files' text' output' h'
    rw [hwritten, h'.read_output, Except.ok.injEq]
    exact listingBytes_inj text' text

/-- Three files. The first two differ in their line ends only, the third one in a quote. -/
theorem completed_listing_unambiguous_line_ends :
    let files : FileTree := ⟨[(["home"], .directory),
      (["home", "a"], .file (Utf8.encode "x\x0B$ '\r\n")),
      (["home", "b"], .file (Utf8.encode "x\u2028$ '")),
      (["home", "c"], .file (Utf8.encode "x\n$ \""))], ["home"]⟩
    (run ["a", "--output=out"] files).1.output = "Wrote 5 tokens from 2 lines to out\n" ∧
      wideLines (unlines (entries (linesOf "x\x0B$ '\r\n"))) =
        entries (linesOf "x\x0B$ '\r\n") ∧
      (entries (linesOf "x\x0B$ '\r\n")).length = 9 ∧
      (run ["b", "--output=out"] files).2.read ⟨"", ["out"]⟩ =
        (run ["a", "--output=out"] files).2.read ⟨"", ["out"]⟩ ∧
      (run ["c", "--output=out"] files).2.read ⟨"", ["out"]⟩ ≠
        (run ["a", "--output=out"] files).2.read ⟨"", ["out"]⟩ := by
  intro files
  have hcompleted : (run ["a", "--output=out"] files).1.ending = .completed := by decide +kernel
  have hsettings : settings ["a", "--output=out"] =
      .ok { input := ⟨"", ["a"]⟩, output := some ⟨"", ["out"]⟩ } := by decide +kernel
  have hread : readText files ⟨"", ["a"]⟩ = .ok "x\x0B$ '\r\n" := by decide +kernel
  obtain ⟨text, output, hcall, -, hprinted, -, hlines, -, hlength, -, -, hother⟩ :=
    completed_listing_unambiguous hcompleted
  obtain ⟨s, hs, htext, houtput⟩ := hcall.settings_eq
  cases hsettings.symm.trans hs
  cases hread.symm.trans htext
  cases houtput
  have hsecond : Completes ["b", "--output=out"] files "x\u2028$ '" ⟨"", ["out"]⟩ :=
    ⟨by decide +kernel, { input := ⟨"", ["b"]⟩, output := some ⟨"", ["out"]⟩ },
      by decide +kernel, by decide +kernel, rfl⟩
  have hthird : Completes ["c", "--output=out"] files "x\n$ \"" ⟨"", ["out"]⟩ :=
    ⟨by decide +kernel, { input := ⟨"", ["c"]⟩, output := some ⟨"", ["out"]⟩ },
      by decide +kernel, by decide +kernel, rfl⟩
  refine ⟨hprinted.trans (by decide +kernel), hlines, hlength.trans (by decide +kernel), ?_, ?_⟩
  · exact (hother _ _ _ _ hsecond).mpr (by decide +kernel)
  · exact fun h => absurd ((hother _ _ _ _ hthird).mp h) (by decide +kernel)

end Command.Listing

end Numeral
