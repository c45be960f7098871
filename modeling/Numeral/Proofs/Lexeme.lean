import Numeral.Proofs.Scan

/-!
# Lexemes

What a line is cut into, said without offsets and without patterns. A line is split into maximal
runs of word characters and single other characters. A run loses characters at its head until the
rest is a name or consists of hexadecimal digits; the rest is one token, and the characters lost are
invalid.

- `lexemes`: the kinds and texts of the tokens of a line, piece by piece.
- `lexemes_blank`, `lexemes_separator`, `lexemes_word`: `lexemes` from the head of a line on.
- `pieces_append`, `lexemes_append`, `mem_lexemes_append`: a text is cut in front of one that starts
  no word.
- `isTokenWord_of_mem_lexemes`: a lexeme of a word kind is a whole word, wherever it stands.
- `lexemes_eq_cons_word_iff`, `lexemes_eq_cons_symbol_iff`: the text in front of the first lexeme.
- `map_lexeme_tokensOf`: the tokens of every line are its lexemes.
-/

namespace Numeral

/-- The maximal runs of word characters and the single other characters, in their order. -/
def pieces (cs : List Char) : List (List Char) :=
  cs.splitBy fun c d => isWord c && isWord d

/-- The number of characters that a run of word characters loses at its head: the least number such
that the rest is a token, or all. -/
def lostLength (w : List Char) : Nat :=
  (List.range w.length).findIdx fun j => isTokenWord (w.drop j)

/-- What a run of word characters is cut into. -/
def lexemesOfWord (w : List Char) : List (Kind × List Char) :=
  let j := lostLength w
  (w.take j).map (fun c => (.invalid, [c])) ++
    if j < w.length then [(kindOfWord (w.drop j), w.drop j)] else []

/-- What a character that belongs to no word is cut into. -/
def lexemesOfSeparator (c : Char) : List (Kind × List Char) :=
  if isBlank c then [] else [((symbolKind? c).getD .invalid, [c])]

/-- What a piece is cut into. -/
def lexemesOfPiece : List Char → List (Kind × List Char)
  | [] => []
  | c :: cs => if isWord c then lexemesOfWord (c :: cs) else lexemesOfSeparator c

/-- What a line is cut into, the end of the line included. -/
def lexemes (cs : List Char) : List (Kind × List Char) :=
  (pieces cs).flatMap lexemesOfPiece ++ [(.endOfLine, [])]

/-- The kind and the text of a token. -/
def Token.lexeme (t : Token) : Kind × List Char :=
  (t.kind, t.text.toList)

section Cut

variable {c : Char} {cs w r : List Char}

/-! ## One run of word characters -/

private theorem lostLength_of_tokenWord (hne : w ≠ []) (h : isTokenWord w = true) :
    lostLength w = 0 := by
  obtain ⟨c, w, rfl⟩ := List.exists_cons_of_ne_nil hne
  simp [lostLength, List.range_succ_eq_map, List.findIdx_cons, h]

private theorem lostLength_cons_of_not_tokenWord (h : isTokenWord (c :: w) = false) :
    lostLength (c :: w) = lostLength w + 1 := by
  simp only [lostLength, List.length_cons, List.range_succ_eq_map, List.findIdx_cons,
    List.drop_zero, h, cond_false, List.findIdx_map]
  rfl

theorem lexemesOfWord_of_tokenWord (hne : w ≠ []) (h : isTokenWord w = true) :
    lexemesOfWord w = [(kindOfWord w, w)] := by
  simp [lexemesOfWord, lostLength_of_tokenWord hne h, List.length_pos_of_ne_nil hne]

theorem lexemesOfWord_cons_of_not_tokenWord (h : isTokenWord (c :: w) = false) :
    lexemesOfWord (c :: w) = (.invalid, [c]) :: lexemesOfWord w := by
  simp [lexemesOfWord, lostLength_cons_of_not_tokenWord h]

/-! ## From the head of a line on -/

/-- A text is cut in front of a text that starts no word. -/
theorem pieces_append (cs : List Char) (hr : StartsNoWord r) :
    pieces (cs ++ r) = pieces cs ++ pieces r := by
  refine List.splitBy_append fun c _ d hd => ?_
  simp [hr d hd]

private theorem pieces_word (hne : w ≠ []) (hw : ∀ c ∈ w, isWord c = true) (hr : StartsNoWord r) :
    pieces (w ++ r) = w :: pieces r := by
  have hchain : w.IsChain fun c d => (isWord c && isWord d) = true :=
    (List.pairwise_of_forall_mem_list fun c hc d hd => by simp [hw c hc, hw d hd]).isChain
  rw [pieces_append w hr, pieces, List.splitBy_of_isChain hne hchain, List.singleton_append]

private theorem pieces_cons_of_not_word (hc : isWord c = false) :
    pieces (c :: cs) = [c] :: pieces cs := by
  rw [pieces, ← List.singleton_append, List.splitBy_append]
  · rfl
  · intro d hd e _
    simp only [List.getLast?_singleton, Option.mem_some_iff] at hd
    simp [← hd, hc]

theorem lexemes_nil : lexemes [] = [(.endOfLine, [])] :=
  rfl

/-- Two texts, the second of which starts no word, have the lexemes of both. -/
theorem mem_lexemes_append (hr : StartsNoWord r) {l : Kind × List Char} :
    l ∈ lexemes (cs ++ r) ↔ l ∈ lexemes cs ∨ l ∈ lexemes r := by
  simp only [lexemes, pieces_append cs hr, List.flatMap_append, List.mem_append]
  tauto

theorem lexemes_append (cs : List Char) (hr : StartsNoWord r) :
    lexemes (cs ++ r) = (lexemes cs).dropLast ++ lexemes r := by
  simp [lexemes, pieces_append cs hr]

theorem lexemes_ne_nil (cs : List Char) : lexemes cs ≠ [] := by
  simp [lexemes]

theorem lexemes_separator (hc : isWord c = false) :
    lexemes (c :: cs) = lexemesOfSeparator c ++ lexemes cs := by
  simp [lexemes, pieces_cons_of_not_word hc, lexemesOfPiece, hc]

theorem lexemes_blank (hc : isBlank c = true) : lexemes (c :: cs) = lexemes cs := by
  simp [lexemes_separator (isWord_eq_false_of_isBlank hc), lexemesOfSeparator, hc]

theorem lexemes_word (hw : ∀ c ∈ w, isWord c = true) (hr : StartsNoWord r) :
    lexemes (w ++ r) = lexemesOfWord w ++ lexemes r := by
  cases w with
  | nil => rfl
  | cons c w =>
    rw [lexemes, pieces_word (List.cons_ne_nil c w) hw hr, List.flatMap_cons, List.append_assoc]
    simp [lexemes, lexemesOfPiece, hw c (by simp)]

end Cut

/-! ## The first lexeme -/

/-- Whether `cs` consists of blanks, if of anything. -/
def IsGap (cs : List Char) : Prop :=
  ∀ c ∈ cs, isBlank c = true

instance (cs : List Char) : Decidable (IsGap cs) :=
  decidable_of_iff (cs.all isBlank = true) List.all_eq_true

/-- A kind that only words have. -/
inductive Kind.IsOfWord : Kind → Prop
  | keyword (b : Base) : IsOfWord (.keyword b)
  | identifier : IsOfWord .identifier
  | number (b : Base) : IsOfWord (.number b)

section First

variable {c : Char} {cs w r gap : List Char} {kind : Kind} {ls : List (Kind × List Char)}

theorem not_isOfWord_of_symbolKind? (h : symbolKind? c = some kind) : ¬ kind.IsOfWord := by
  have hsymbols : ∀ e ∈ symbolKinds, ¬ e.2.IsOfWord := by
    simp only [symbolKinds, List.forall_mem_cons]
    refine ⟨?_, ?_, ?_, ?_, ?_, ?_, ?_, by simp⟩ <;> rintro ⟨⟩
  exact hsymbols _ (mem_symbolKinds h)

theorem isOfWord_kindOfWord (w : List Char) : (kindOfWord w).IsOfWord := by
  unfold kindOfWord
  repeat' split
  all_goals constructor

theorem lexemes_gap (hgap : IsGap gap) : lexemes (gap ++ cs) = lexemes cs := by
  induction gap with
  | nil => rfl
  | cons c gap ih =>
    rw [List.cons_append, lexemes_blank (hgap c (by simp)), ih fun d hd => hgap d (by simp [hd])]

theorem lexemes_tokenWord (hr : StartsNoWord r) (ht : isTokenWord w = true) :
    lexemes (w ++ r) = (kindOfWord w, w) :: lexemes r := by
  rw [lexemes_word (isWord_of_isTokenWord ht) hr,
    lexemesOfWord_of_tokenWord (ne_nil_of_isTokenWord ht) ht]
  rfl

/-- A word that is a token as a whole is cut into itself. -/
theorem lexemes_of_isTokenWord (ht : isTokenWord w = true) :
    lexemes w = [(kindOfWord w, w), (.endOfLine, [])] := by
  have hnil : StartsNoWord [] := by simp [StartsNoWord]
  rw [← lexemes_nil, ← lexemes_tokenWord hnil ht, List.append_nil]

theorem lexemes_symbol (h : symbolKind? c = some kind) :
    lexemes (c :: cs) = (kind, [c]) :: lexemes cs := by
  rw [lexemes_separator (isWord_eq_false_of_symbolKind? h), lexemesOfSeparator,
    isBlank_eq_false_of_symbolKind? h, h]
  rfl

theorem exists_gap_append (cs : List Char) :
    ∃ gap r, cs = gap ++ r ∧ IsGap gap ∧ ∀ c ∈ r.head?, isBlank c = false := by
  refine ⟨cs.takeWhile isBlank, cs.dropWhile isBlank, List.takeWhile_append_dropWhile.symm,
    fun c hc => List.mem_takeWhile_imp hc, fun c hc => ?_⟩
  have := List.head?_dropWhile_not isBlank cs
  rw [Option.mem_def.mp hc] at this
  simpa using this

/-- What the first lexeme of a text can be: behind blanks there is the end of the line, a word that
is a token, a symbol, or a character that is invalid. -/
theorem lexemes_cases (cs : List Char) :
    (IsGap cs ∧ lexemes cs = [(.endOfLine, [])]) ∨
    (∃ gap w r, cs = gap ++ (w ++ r) ∧ IsGap gap ∧ StartsNoWord r ∧ isTokenWord w = true ∧
      lexemes cs = (kindOfWord w, w) :: lexemes r) ∨
    (∃ gap c r kind, cs = gap ++ c :: r ∧ IsGap gap ∧ symbolKind? c = some kind ∧
      lexemes cs = (kind, [c]) :: lexemes r) ∨
    (∃ gap c r, cs = gap ++ c :: r ∧ IsGap gap ∧ isBlank c = false ∧ symbolKind? c = none ∧
      lexemes cs = (.invalid, [c]) :: lexemes r) := by
  obtain ⟨gap, r, rfl, hgap, hblank⟩ := exists_gap_append cs
  rw [lexemes_gap hgap]
  cases r with
  | nil => exact .inl ⟨by simpa using hgap, lexemes_nil⟩
  | cons c r =>
    have hblank : isBlank c = false := hblank c (by simp)
    cases hc : isWord c with
    | true =>
      obtain ⟨w, r', he, hne, hw, hr⟩ := exists_word_append r hc
      cases ht : isTokenWord w with
      | true =>
        rw [he]
        exact .inr (.inl ⟨gap, w, r', rfl, hgap, hr, ht, lexemes_tokenWord hr ht⟩)
      | false =>
        -- The run loses its first character, and goes on with the others.
        obtain ⟨d, w, rfl⟩ := List.exists_cons_of_ne_nil hne
        refine .inr (.inr (.inr
          ⟨gap, c, r, rfl, hgap, hblank, symbolKind?_eq_none_of_isWord hc, ?_⟩))
        rw [List.cons_append, List.cons_eq_cons] at he
        obtain ⟨rfl, rfl⟩ := he
        rw [← List.cons_append, lexemes_word hw hr, lexemesOfWord_cons_of_not_tokenWord ht,
          lexemes_word (fun d hd => hw d (by simp [hd])) hr]
        rfl
    | false =>
      cases hk : symbolKind? c with
      | some kind => exact .inr (.inr (.inl ⟨gap, c, r, kind, rfl, hgap, hk, lexemes_symbol hk⟩))
      | none =>
        refine .inr (.inr (.inr ⟨gap, c, r, rfl, hgap, hblank, hk, ?_⟩))
        rw [lexemes_separator hc, lexemesOfSeparator, hblank, hk]
        rfl

/-- What a run of word characters is cut into is invalid or a word that is a token. -/
theorem mem_lexemesOfWord (h : (kind, w) ∈ lexemesOfWord r) :
    kind = .invalid ∨ isTokenWord w = true ∧ kindOfWord w = kind := by
  induction r with
  | nil => cases h
  | cons c r ih =>
    cases ht : isTokenWord (c :: r) with
    | true =>
      rw [lexemesOfWord_of_tokenWord (List.cons_ne_nil c r) ht, List.mem_singleton] at h
      cases h
      exact .inr ⟨ht, rfl⟩
    | false =>
      rw [lexemesOfWord_cons_of_not_tokenWord ht, List.mem_cons] at h
      rcases h with h | h
      · cases h
        exact .inl rfl
      · exact ih h

private theorem not_isOfWord_of_mem_lexemesOfSeparator (h : (kind, w) ∈ lexemesOfSeparator c) :
    ¬ kind.IsOfWord := by
  unfold lexemesOfSeparator at h
  split at h
  · cases h
  · rw [List.mem_singleton, Prod.mk.injEq] at h
    obtain ⟨rfl, -⟩ := h
    cases hk : symbolKind? c with
    | some k => exact not_isOfWord_of_symbolKind? hk
    | none => rintro ⟨⟩

/-- A lexeme of a kind that only words have is a word of that kind, wherever it stands. -/
theorem isTokenWord_of_mem_lexemes (h : (kind, w) ∈ lexemes cs) (hkind : kind.IsOfWord) :
    isTokenWord w = true ∧ kindOfWord w = kind := by
  rw [lexemes, List.mem_append, List.mem_flatMap, List.mem_singleton] at h
  rcases h with ⟨piece, -, h⟩ | h
  · cases piece with
    | nil => cases h
    | cons c r =>
      rw [lexemesOfPiece] at h
      split at h
      · rcases mem_lexemesOfWord h with rfl | hword
        · cases hkind
        · exact hword
      · exact absurd hkind (not_isOfWord_of_mem_lexemesOfSeparator h)
  · cases h
    cases hkind

/-- The first lexeme is a word of that kind iff it stands behind blanks and is a word as a whole. -/
theorem lexemes_eq_cons_word_iff (hkind : kind.IsOfWord) :
    lexemes cs = (kind, w) :: ls ↔
      ∃ gap r, cs = gap ++ (w ++ r) ∧ IsGap gap ∧ StartsNoWord r ∧ isTokenWord w = true ∧
        kindOfWord w = kind ∧ ls = lexemes r := by
  constructor
  · intro h
    rcases lexemes_cases cs with ⟨-, he⟩ | ⟨gap, v, r, rfl, hgap, hr, ht, he⟩ |
      ⟨gap, c, r, k, rfl, hgap, hk, he⟩ | ⟨gap, c, r, rfl, hgap, -, -, he⟩
    · cases he.symm.trans h
      cases hkind
    · cases he.symm.trans h
      exact ⟨gap, r, rfl, hgap, hr, ht, rfl, rfl⟩
    · cases he.symm.trans h
      exact absurd hkind (not_isOfWord_of_symbolKind? hk)
    · cases he.symm.trans h
      cases hkind
  · rintro ⟨gap, r, rfl, hgap, hr, ht, rfl, rfl⟩
    rw [lexemes_gap hgap, lexemes_tokenWord hr ht]

/-- The first lexeme is a symbol of that kind iff the symbol stands behind blanks. -/
theorem lexemes_eq_cons_symbol_iff (hc : symbolKind? c = some kind) :
    lexemes cs = (kind, w) :: ls ↔
      ∃ gap r, cs = gap ++ c :: r ∧ IsGap gap ∧ w = [c] ∧ ls = lexemes r := by
  constructor
  · intro h
    rcases lexemes_cases cs with ⟨-, he⟩ | ⟨gap, v, r, rfl, hgap, hr, ht, he⟩ |
      ⟨gap, d, r, k, rfl, hgap, hk, he⟩ | ⟨gap, d, r, rfl, hgap, -, -, he⟩
    · cases he.symm.trans h
      exact absurd rfl (ne_endOfLine_of_symbolKind? hc)
    · cases he.symm.trans h
      exact absurd (isOfWord_kindOfWord _) (not_isOfWord_of_symbolKind? hc)
    · cases he.symm.trans h
      cases symbolKind?_inj hk hc
      exact ⟨gap, r, rfl, hgap, rfl, rfl⟩
    · cases he.symm.trans h
      exact absurd rfl (ne_invalid_of_symbolKind? hc)
  · rintro ⟨gap, r, rfl, hgap, rfl, rfl⟩
    rw [lexemes_gap hgap, lexemes_symbol hc]

end First

/-! ## The tokens of a scanner -/

@[simp]
theorem Token.lexeme_ofChars (kind : Kind) (offset : Nat) (cs : List Char) :
    (Token.ofChars kind offset cs).lexeme = (kind, cs) := by
  simp [lexeme, ofChars]

namespace Scanner

/-- A scanner cuts up the run of word characters that it stands at, if all scanners behind the run
give the lexemes of what is left. -/
theorem map_lexeme_drain_word {r : List Char} (hr : StartsNoWord r)
    (hrest : ∀ s : Scanner, s.rest = r → s.drain.1.map Token.lexeme = lexemes r) {w : List Char}
    (hw : ∀ c ∈ w, isWord c = true) {s : Scanner} (h : s.rest = w ++ r) :
    s.drain.1.map Token.lexeme = lexemesOfWord w ++ lexemes r := by
  induction w generalizing s with
  | nil => exact hrest s h
  | cons c w ih =>
    cases ht : isTokenWord (c :: w) with
    | true =>
      rw [drain_tokenWord h (List.cons_ne_nil c w) hw hr ht, List.map_cons, Token.lexeme_ofChars,
        hrest _ (by rw [rest_advance, h, List.drop_left]),
        lexemesOfWord_of_tokenWord (List.cons_ne_nil c w) ht]
      rfl
    | false =>
      rw [drain_word_of_not_tokenWord h hw hr ht, List.map_cons, Token.lexeme_ofChars,
        ih (fun d hd => hw d (by simp [hd])) (by simp [reject, advance, h]),
        lexemesOfWord_cons_of_not_tokenWord ht]
      rfl

/-- **Lexemes of a scanner.** The tokens from any offset on have the kinds and texts that the
characters from there on are cut into. -/
theorem map_lexeme_drain (s : Scanner) : s.drain.1.map Token.lexeme = lexemes s.rest := by
  -- A word is passed as a whole, every other character alone; both leave a shorter rest.
  induction hn : s.rest.length using Nat.strong_induction_on generalizing s with
  | _ n ih =>
    cases hrest : s.rest with
    | nil =>
      rw [drain_of_rest_eq_nil hrest]
      rfl
    | cons c cs =>
      rw [hrest, List.length_cons] at hn
      cases hc : isWord c with
      | true =>
        obtain ⟨w, r, he, hne, hw, hr⟩ := exists_word_append cs hc
        have hlen := congrArg List.length he
        have hpos := List.length_pos_of_ne_nil hne
        simp only [List.length_cons, List.length_append] at hlen
        rw [he, lexemes_word hw hr]
        refine map_lexeme_drain_word hr (fun s' hs' => ?_) hw (hrest.trans he)
        rw [ih r.length (by omega) s' (by rw [hs']), hs']
      | false =>
        rw [lexemes_separator hc, lexemesOfSeparator]
        cases hb : isBlank c with
        | true =>
          rw [drain_blank hrest hb, ih cs.length (by omega) _ (by simp [hrest])]
          simp [hrest]
        | false =>
          cases hk : symbolKind? c with
          | some kind =>
            rw [drain_symbol hrest hk, List.map_cons, Token.lexeme_ofChars,
              ih cs.length (by omega) _ (by simp [hrest])]
            simp [hrest]
          | none =>
            rw [drain_of_not_symbol hrest hb hc hk, List.map_cons, Token.lexeme_ofChars,
              ih cs.length (by omega) _ (by simp [reject, advance, hrest])]
            simp [reject, advance, hrest]

end Scanner

theorem lexemes_tokensOf (text : String) :
    (tokensOf text).map Token.lexeme = lexemes text.toList :=
  Scanner.map_lexeme_drain (Scanner.ofText text)

/-- A line that is a word as a whole has that word for its one token. -/
theorem tokensOf_word {text : String} (ht : isTokenWord text.toList = true) :
    tokensOf text =
      [⟨kindOfWord text.toList, text, .ofLength 0 text.length⟩, .endAt text.length] := by
  have hrest : (Scanner.ofText text).rest = text.toList ++ [] := (List.append_nil _).symm
  have hend : ((Scanner.ofText text).advance text.toList.length).rest = [] := by
    rw [Scanner.rest_advance, hrest, List.drop_left]
  rw [tokensOf, Scanner.drain_tokenWord hrest (ne_nil_of_isTokenWord ht) (isWord_of_isTokenWord ht)
    (by simp [StartsNoWord]) ht, Scanner.drain_of_rest_eq_nil hend]
  simp [Token.ofChars, Scanner.ofText, Scanner.advance, String.length_toList]

/-- **Word runs.** The tokens of a line are, in order: nothing for a blank; the symbol for a symbol;
an invalid token for any other character that belongs to no word; and for each maximal run of word
characters an invalid token for every character that it loses, and one token for the rest. -/
theorem map_lexeme_tokensOf (text : String) :
    (tokensOf text).map Token.lexeme =
      (pieces text.toList).flatMap lexemesOfPiece ++ [(.endOfLine, [])] := by
  rw [lexemes_tokensOf, lexemes]

example : lexemes ['1', 'Z', ' ', '0', 'x', '1', 'F', ';'] =
    [(.invalid, ['1']), (.identifier, ['Z']), (.invalid, ['0']), (.identifier, ['x', '1', 'F']),
      (.semicolon, [';']), (.endOfLine, [])] := by
  decide +kernel

end Numeral
