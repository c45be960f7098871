import Mathlib.Data.List.DropRight
import Numeral.Text.LineStream

/-!
# Line ends

Splitting a text at its line ends loses these and nothing else. What a text stream does comes to the
same: it writes every line end as a line feed and hands the text out in pieces that go up to a line
feed, and the line feed is stripped off each piece.

- `splitLines_lineEnd`, `splitLines_cons`: what one character of a text does to its lines.
- `flatten_splitLines`: the lines hold the characters that end no line, in their order.
- `splitLines_eq_iff`: two sets of line ends give the same lines iff they agree on the text.
- `IsOneLine`: a text without line ends.
- `splitLines_feedOnly`: to write every line end as a line feed changes no line.
- `stripped_feedPieces`: the pieces of a text stream, stripped, are the lines of the text.
-/

namespace Numeral

/-- The lines with `c` in front of the first one. Without a line it is a line of its own. -/
def consLine (c : Char) : List (List Char) → List (List Char)
  | [] => [[c]]
  | line :: lines => (c :: line) :: lines

@[simp]
theorem flatten_consLine (c : Char) (lines : List (List Char)) :
    (consLine c lines).flatten = c :: lines.flatten := by
  cases lines <;> rfl

/-- The text with every line end written as a line feed. -/
def feedOnly : List Char → List Char
  | [] => []
  | '\r' :: '\n' :: rest => '\n' :: feedOnly rest
  | c :: rest => (if c = '\r' then '\n' else c) :: feedOnly rest

/-- A text is read from its head, where a line feed goes with the carriage return before it. -/
theorem lineEnd_induction {motive : List Char → Prop} (nil : motive [])
    (pair : ∀ rest, motive rest → motive ('\r' :: '\n' :: rest))
    (single : ∀ c rest, ¬ (c = '\r' ∧ rest.head? = some '\n') → motive rest → motive (c :: rest))
    (cs : List Char) : motive cs := by
  induction cs using feedOnly.induct with
  | case1 => exact nil
  | case2 rest ih => exact pair rest ih
  | case3 c rest hpair ih =>
    refine single c rest ?_ ih
    rintro ⟨rfl, hhead⟩
    obtain ⟨r, rfl⟩ := List.head?_eq_some_iff.mp hhead
    exact hpair r rfl rfl

/-! ## Lines and their characters -/

section Split

variable {ends ends' : Char → Bool} {cs rest : List Char} {c : Char}

theorem splitLines_return_feed (hreturn : ends '\r' = true) (rest : List Char) :
    splitLines ends ('\r' :: '\n' :: rest) = [] :: splitLines ends rest := by
  rw [splitLines, if_pos hreturn]

theorem splitLines_lineEnd (hc : ends c = true) (h : ¬ (c = '\r' ∧ rest.head? = some '\n')) :
    splitLines ends (c :: rest) = [] :: splitLines ends rest := by
  rw [splitLines, if_pos hc]
  rintro r rfl rfl
  exact h ⟨rfl, rfl⟩

/-- A character that ends no line goes in front of the next line. -/
theorem splitLines_cons (hc : ends c = false) (rest : List Char) :
    splitLines ends (c :: rest) = consLine c (splitLines ends rest) := by
  by_cases h : c = '\r' ∧ rest.head? = some '\n'
  · obtain ⟨rfl, hhead⟩ := h
    obtain ⟨r, rfl⟩ := List.head?_eq_some_iff.mp hhead
    rw [splitLines, if_neg (by simp [hc])]
    cases splitLines ends ('\n' :: r) <;> rfl
  · rw [splitLines, if_neg (by simp [hc])]
    · cases splitLines ends rest <;> rfl
    · rintro r rfl rfl
      exact h ⟨rfl, rfl⟩

theorem splitLines_ne_nil (h : cs ≠ []) : splitLines ends cs ≠ [] := by
  unfold splitLines
  repeat' split
  all_goals simp_all

/-- The lines hold the characters that end no line, in their order. -/
theorem flatten_splitLines (hreturn : ends '\r' = true) (hfeed : ends '\n' = true)
    (cs : List Char) : (splitLines ends cs).flatten = cs.filter fun c => !ends c := by
  induction cs using lineEnd_induction with
  | nil => rfl
  | pair rest ih => simp [splitLines_return_feed hreturn, hreturn, hfeed, ih]
  | single c rest h ih =>
    cases hc : ends c with
    | true => simp [splitLines_lineEnd hc h, hc, ih]
    | false => simp [splitLines_cons hc, hc, ih]

/-- No line holds a line end. -/
theorem not_lineEnd_of_mem_splitLines (hreturn : ends '\r' = true) (hfeed : ends '\n' = true)
    {line : List Char} (hline : line ∈ splitLines ends cs) (hc : c ∈ line) : ends c = false := by
  have hmem : c ∈ (splitLines ends cs).flatten := List.mem_flatten_of_mem hline hc
  rw [flatten_splitLines hreturn hfeed] at hmem
  simpa using (List.mem_filter.mp hmem).2

/-- Two sets of line ends give the same lines iff they agree on the characters of the text. -/
theorem splitLines_eq_iff (hreturn : ends '\r' = true) (hfeed : ends '\n' = true)
    (hreturn' : ends' '\r' = true) (hfeed' : ends' '\n' = true) :
    splitLines ends cs = splitLines ends' cs ↔ ∀ c ∈ cs, ends c = ends' c := by
  constructor
  · intro h c hc
    have hfilter : (cs.filter fun c => !ends c) = cs.filter fun c => !ends' c := by
      rw [← flatten_splitLines hreturn hfeed, h, flatten_splitLines hreturn' hfeed']
    have hmem : (c ∈ cs.filter fun c => !ends c) ↔ c ∈ cs.filter fun c => !ends' c := by
      rw [hfilter]
    simpa [hc, ← Bool.eq_iff_iff] using hmem
  · intro h
    induction cs using lineEnd_induction with
    | nil => rfl
    | pair rest ih =>
      rw [splitLines_return_feed hreturn, splitLines_return_feed hreturn',
        ih fun c hc => h c (by simp [hc])]
    | single c rest hpair ih =>
      have hrest := ih fun d hd => h d (by simp [hd])
      have hsame : ends c = ends' c := h c (by simp)
      cases hc : ends c with
      | true => rw [splitLines_lineEnd hc hpair, splitLines_lineEnd (hsame ▸ hc) hpair, hrest]
      | false => rw [splitLines_cons hc, splitLines_cons (hsame ▸ hc), hrest]

/-- In front of a text whose first line is empty, characters that end no line make up that line. -/
theorem splitLines_append_of_nil {line : List Char} {lines : List (List Char)}
    (hline : ∀ c ∈ line, ends c = false) (hrest : splitLines ends rest = [] :: lines) :
    splitLines ends (line ++ rest) = line :: lines := by
  induction line with
  | nil => exact hrest
  | cons c line ih =>
    rw [List.forall_mem_cons] at hline
    rw [List.cons_append, splitLines_cons hline.1, ih hline.2, consLine]

end Split

/-- A text holds no line end of any kind. -/
def IsOneLine (text : String) : Prop :=
  ∀ c ∈ text.toList, isWideLineEnd c = false

instance (text : String) : Decidable (IsOneLine text) :=
  decidable_of_iff (text.toList.all (!isWideLineEnd ·) = true) (by simp [IsOneLine])

@[simp]
theorem isOneLine_append {a b : String} : IsOneLine (a ++ b) ↔ IsOneLine a ∧ IsOneLine b := by
  simp only [IsOneLine, String.toList_append, List.forall_mem_append]

/-! ## Text streams -/

/-- The pieces of a text, of which each ends behind a line feed or at the end of the text. -/
def feedPieces : List Char → List (List Char)
  | [] => []
  | c :: rest => if c = '\n' then ['\n'] :: feedPieces rest else consLine c (feedPieces rest)

/-- A text without the line ends at its end. -/
def stripLineEnds (cs : List Char) : List Char :=
  cs.rdropWhile isPlainLineEnd

/-- The lines as they come from a text stream: the pieces of the text in which every line end is
written as a line feed, without their line ends. -/
def streamedLines (text : String) : List String :=
  (feedPieces (feedOnly text.toList)).map fun piece => String.ofList (stripLineEnds piece)

section Stream

variable {ends : Char → Bool} {cs rest : List Char} {c : Char}

theorem feedOnly_cons (h : ¬ (c = '\r' ∧ rest.head? = some '\n')) :
    feedOnly (c :: rest) = (if c = '\r' then '\n' else c) :: feedOnly rest := by
  rw [feedOnly]
  rintro r rfl rfl
  exact h ⟨rfl, rfl⟩

private theorem return_not_mem_feedOnly (cs : List Char) : '\r' ∉ feedOnly cs := by
  induction cs using lineEnd_induction with
  | nil => simp [feedOnly]
  | pair rest ih => simp [feedOnly, ih]
  | single c rest h ih =>
    rw [feedOnly_cons h]
    split <;> simp_all [eq_comm]

/-- To write every line end as a line feed changes no line. -/
theorem splitLines_feedOnly (hreturn : ends '\r' = true) (hfeed : ends '\n' = true)
    (cs : List Char) : splitLines ends (feedOnly cs) = splitLines ends cs := by
  induction cs using lineEnd_induction with
  | nil => rfl
  | pair rest ih =>
    rw [feedOnly, splitLines_return_feed hreturn, splitLines_lineEnd hfeed (by simp), ih]
  | single c rest h ih =>
    rw [feedOnly_cons h]
    by_cases hc : c = '\r'
    · rw [if_pos hc, splitLines_lineEnd hfeed (by simp), ih,
        splitLines_lineEnd (hc ▸ hreturn) h]
    · rw [if_neg hc]
      cases hend : ends c with
      | true => rw [splitLines_lineEnd hend (by simp [hc]), ih, splitLines_lineEnd hend h]
      | false => rw [splitLines_cons hend, ih, splitLines_cons hend]

theorem stripLineEnds_cons (hc : isPlainLineEnd c = false) (cs : List Char) :
    stripLineEnds (c :: cs) = c :: stripLineEnds cs := by
  induction cs using List.reverseRecOn with
  | nil => simp [stripLineEnds, List.rdropWhile_singleton, hc]
  | append_singleton cs d ih =>
    rw [stripLineEnds, stripLineEnds, ← List.cons_append, List.rdropWhile_concat,
      List.rdropWhile_concat]
    split
    · exact ih
    · rfl

/-- A carriage return would be stripped off a piece in whose line it stands. -/
theorem stripped_feedPieces (h : '\r' ∉ cs) :
    (feedPieces cs).map stripLineEnds = splitLines isPlainLineEnd cs := by
  induction cs with
  | nil => rfl
  | cons c rest ih =>
    obtain ⟨hc, hrest⟩ := not_or.mp (mt List.mem_cons.mpr h)
    by_cases hfeed : c = '\n'
    · subst hfeed
      rw [feedPieces, if_pos rfl, List.map_cons, ih hrest,
        splitLines_lineEnd (by decide) (by simp)]
      rfl
    · have hend : isPlainLineEnd c = false := by simp [isPlainLineEnd, hfeed, Ne.symm hc]
      rw [feedPieces, if_neg hfeed, splitLines_cons hend, ← ih hrest]
      cases feedPieces rest with
      | nil => simp [consLine, stripLineEnds, hend]
      | cons piece pieces => simp [consLine, stripLineEnds_cons hend]

end Stream

/-- **Text streams.** A text stream hands out the lines of the text. -/
theorem streamedLines_eq (text : String) : streamedLines text = plainLines text := by
  rw [plainLines, ← splitLines_feedOnly rfl rfl,
    ← stripped_feedPieces (return_not_mem_feedOnly text.toList), List.map_map]
  rfl

end Numeral
