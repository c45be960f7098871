import Numeral.Proofs.LineDiagnostics

/-!
# The tokens of a line tile its text

A scanner loses no character and takes none twice. Every character of a line is a blank or belongs
to exactly one token, and the tokens stand in the order of their characters.

- `Pattern.exists_append_of_first?`, `Scanner.exists_step`: what one step takes.
- `Tiles`: tokens that follow each other with nothing but blanks in front, between and behind.
- `Scanner.exists_tiles_drain`: the tokens of a scanner are such, and the end of the line is last.
- `Tiles.pairwise`, `Tiles.text_eq`, `Tiles.isBlank_iff`, `Tiles.flatMap_text`: the order of the
  tokens, their texts, and the characters outside them.
- `tokensOf_partition`: all of this for the tokens of a line and the reports of its scanner.
-/

namespace Numeral

/-! ## One step -/

/-- A pattern takes characters from the head of a text, and no blank among them. -/
theorem Pattern.exists_append_of_first? {cs : List Char} {kind : Kind} {n : Nat}
    (h : first? table cs = some (kind, n)) :
    ∃ w r, cs = w ++ r ∧ w.length = n ∧ ∀ c ∈ w, isBlank c = false := by
  cases cs with
  | nil => cases h
  | cons c cs =>
    cases hc : isWord c with
    | true =>
      obtain ⟨w, r, he, hne, hw, hr⟩ := exists_word_append cs hc
      rw [he, first?_word hne hw hr] at h
      split at h
      · cases h
        exact ⟨w, r, he, rfl, fun d hd => isBlank_eq_false_of_isWord (hw d hd)⟩
      · cases h
    | false =>
      rw [first?_of_not_word hc, Option.map_eq_some_iff] at h
      obtain ⟨k, hk, he⟩ := h
      cases he
      exact ⟨[c], cs, rfl, rfl, by simpa using isBlank_eq_false_of_symbolKind? hk⟩

/-- A step at a character that is no blank takes some characters, and no blank among them. It takes
one if it finds no pattern. -/
theorem Scanner.exists_step {s : Scanner} {c : Char} {cs : List Char} (h : s.rest = c :: cs)
    (hc : isBlank c = false) :
    ∃ kind w s', s.step = (.ofChars kind s.offset w, s') ∧ s.rest = w ++ s'.rest ∧
      s'.offset = s.offset + w.length ∧ w ≠ [] ∧ (∀ d ∈ w, isBlank d = false) ∧
      kind ≠ .endOfLine ∧ (kind = .invalid → w.length = 1) := by
  cases hfirst : Pattern.first? Pattern.table s.rest with
  | none =>
    have hstep : s.step = s.reject c := by
      rw [h] at hfirst
      simp [step, h, hfirst]
    exact ⟨.invalid, [c], _, hstep, by simp [advance, h], rfl, by simp, by simpa using hc,
      by simp, fun _ => rfl⟩
  | some p =>
    obtain ⟨kind, n⟩ := p
    obtain ⟨hend, hpos⟩ := Pattern.first?_eq_some hfirst
    obtain ⟨w, r, he, rfl, hw⟩ := Pattern.exists_append_of_first? hfirst
    have haccept : s.accept kind w.length = (.ofChars kind s.offset w, s.advance w.length) := by
      simp [accept, he]
    have hstep : s.step = s.accept kind w.length := by
      rw [h] at hfirst
      simp [step, h, hfirst]
    exact ⟨kind, w, _, hstep.trans haccept, by simp [he], rfl, List.ne_nil_of_length_pos hpos, hw,
      hend, fun hinvalid => absurd hinvalid (Pattern.ne_invalid_of_first? hfirst)⟩

/-! ## Tiles -/

/-- Whether the span covers the character at `offset`. -/
def Span.Contains (s : Span) (offset : Nat) : Prop :=
  s.start ≤ offset ∧ offset < s.stop

/-- `tokens` take up `cs`, of which the first character stands at `offset`. Blanks belong to no
token, and every other character to exactly one. -/
inductive Tiles : Nat → List Char → List Token → Prop
  | nil (offset : Nat) : Tiles offset [] []
  | blank {offset : Nat} {c : Char} {cs : List Char} {tokens : List Token}
      (hc : isBlank c = true) (h : Tiles (offset + 1) cs tokens) : Tiles offset (c :: cs) tokens
  | token {offset : Nat} {kind : Kind} {w cs : List Char} {tokens : List Token} (hne : w ≠ [])
      (hw : ∀ c ∈ w, isBlank c = false) (hend : kind ≠ .endOfLine)
      (hinvalid : kind = .invalid → w.length = 1) (h : Tiles (offset + w.length) cs tokens) :
      Tiles offset (w ++ cs) (.ofChars kind offset w :: tokens)

/-- **Tokens of a scanner.** From any offset on the tokens take up all characters, and the end of the
line comes behind them, once. -/
theorem Scanner.exists_tiles_drain (s : Scanner) :
    ∃ tokens, s.drain.1 = tokens ++ [.endAt (s.offset + s.rest.length)] ∧
      Tiles s.offset s.rest tokens := by
  -- Every step and every blank passed over shortens the rest.
  induction hn : s.rest.length using Nat.strong_induction_on generalizing s with
  | _ n ih =>
    cases hrest : s.rest with
    | nil =>
      subst hn
      exact ⟨[], by simp [drain_of_rest_eq_nil hrest, hrest], .nil _⟩
    | cons c cs =>
      rw [hrest, List.length_cons] at hn
      cases hc : isBlank c with
      | true =>
        have hadvance : (s.advance 1).rest = cs := by simp [hrest]
        obtain ⟨tokens, hdrain, htiles⟩ := ih cs.length (by omega) (s.advance 1) (by rw [hadvance])
        refine ⟨tokens, ?_, .blank hc (hadvance ▸ htiles)⟩
        have hstop : (s.advance 1).offset + cs.length = s.offset + n := by
          simp only [advance]
          omega
        rw [drain_blank hrest hc, hdrain, hstop]
      | false =>
        obtain ⟨kind, w, s', hstep, he, hoffset, hne, hw, hend, hinvalid⟩ := exists_step hrest hc
        have hlength := congrArg List.length he
        have hpos := List.length_pos_of_ne_nil hne
        rw [hrest, List.length_cons, List.length_append] at hlength
        obtain ⟨tokens, hdrain, htiles⟩ := ih s'.rest.length (by omega) s' rfl
        have hstop : s'.offset + s'.rest.length = s.offset + n := by omega
        refine ⟨.ofChars kind s.offset w :: tokens, ?_, ?_⟩
        · rw [drain_of_step hrest hc hstep hend, hdrain, hstop]
          rfl
        · rw [← hrest, he]
          exact .token hne hw hend hinvalid (hoffset ▸ htiles)

namespace Tiles

variable {offset : Nat} {cs : List Char} {tokens : List Token}

theorem ne_endOfLine (h : Tiles offset cs tokens) : ∀ t ∈ tokens, t.kind ≠ .endOfLine := by
  induction h with
  | nil => simp
  | blank _ _ ih => exact ih
  | token _ _ hend _ _ ih => exact List.forall_mem_cons.mpr ⟨hend, ih⟩

theorem length_of_invalid (h : Tiles offset cs tokens) :
    ∀ t ∈ tokens, t.kind = .invalid → t.span.length = 1 := by
  induction h with
  | nil => simp
  | blank _ _ ih => exact ih
  | token _ _ _ hinvalid _ ih =>
    refine List.forall_mem_cons.mpr ⟨fun hkind => ?_, ih⟩
    rw [Token.ofChars, Span.length_ofLength, hinvalid hkind]

/-- Every token takes some of the characters. -/
theorem span_bounds (h : Tiles offset cs tokens) :
    ∀ t ∈ tokens, offset ≤ t.span.start ∧ t.span.start < t.span.stop ∧
      t.span.stop ≤ offset + cs.length := by
  induction h with
  | nil => simp
  | blank _ _ ih =>
    intro t ht
    have := ih t ht
    rw [List.length_cons]
    omega
  | token hne _ _ _ _ ih =>
    have hpos := List.length_pos_of_ne_nil hne
    refine List.forall_mem_cons.mpr ⟨?_, fun t ht => ?_⟩
    · simp only [Token.ofChars, Span.ofLength, List.length_append]
      omega
    · have := ih t ht
      rw [List.length_append]
      omega

/-- Each token ends before the next one starts. -/
theorem pairwise (h : Tiles offset cs tokens) :
    tokens.Pairwise fun t u => t.span.stop ≤ u.span.start := by
  induction h with
  | nil => exact .nil
  | blank _ _ ih => exact ih
  | token _ _ _ _ h ih => exact .cons (fun u hu => (h.span_bounds u hu).1) ih

/-- The text of a token is that of its span. -/
theorem text_eq (h : Tiles offset cs tokens) :
    ∀ t ∈ tokens,
      t.text = String.ofList ((cs.drop (t.span.start - offset)).take t.span.length) := by
  induction h with
  | nil => simp
  | @blank offset c cs tokens _ h ih =>
    intro t ht
    have hstart : t.span.start - offset = t.span.start - (offset + 1) + 1 := by
      have := h.span_bounds t ht
      omega
    rw [ih t ht, hstart, List.drop_succ_cons]
  | @token offset kind w cs tokens _ _ _ _ h ih =>
    refine List.forall_mem_cons.mpr ⟨by simp [Token.ofChars, Span.ofLength, Span.length], ?_⟩
    intro t ht
    have hstart : t.span.start - offset = w.length + (t.span.start - (offset + w.length)) := by
      have := h.span_bounds t ht
      omega
    rw [ih t ht, hstart, ← List.drop_drop, List.drop_left]

/-- The blanks are the characters that no token covers. -/
theorem isBlank_iff (h : Tiles offset cs tokens) {i : Nat} {c : Char} (hc : cs[i]? = some c) :
    isBlank c = true ↔ ∀ t ∈ tokens, ¬ t.span.Contains (offset + i) := by
  induction h generalizing i with
  | nil => simp at hc
  | @blank offset d cs tokens hd h ih =>
    cases i with
    | zero =>
      cases hc
      -- Every token starts behind this blank.
      refine iff_of_true hd fun t ht hcontains => ?_
      have := h.span_bounds t ht
      have := hcontains.1
      omega
    | succ i =>
      rw [List.getElem?_cons_succ] at hc
      rw [ih hc]
      simp only [Nat.add_assoc, Nat.add_comm 1]
  | @token offset kind w cs tokens _ hw _ _ h ih =>
    rw [List.forall_mem_cons]
    by_cases hi : i < w.length
    · -- The character is one of the first token.
      rw [List.getElem?_append_left hi] at hc
      refine iff_of_false (by simp [hw c (List.mem_of_getElem? hc)]) fun hnone => hnone.1 ?_
      simp only [Token.ofChars, Span.ofLength, Span.Contains]
      omega
    · rw [List.getElem?_append_right (by omega)] at hc
      have hoffset : offset + w.length + (i - w.length) = offset + i := by omega
      rw [ih hc, hoffset]
      -- The first token ends in front of the character.
      refine (and_iff_right fun hcontains => ?_).symm
      have := hcontains.2
      simp only [Token.ofChars, Span.ofLength] at this
      omega

/-- The texts of the tokens are what is left of the characters without the blanks. -/
theorem flatMap_text (h : Tiles offset cs tokens) :
    tokens.flatMap (·.text.toList) = cs.filter fun c => !isBlank c := by
  induction h with
  | nil => rfl
  | blank hc _ ih => simp [ih, hc]
  | @token _ _ w _ _ _ hw _ _ _ ih =>
    have hall : (w.filter fun c => !isBlank c) = w :=
      List.filter_eq_self.mpr fun c hc => by simp [hw c hc]
    rw [List.flatMap_cons, ih, List.filter_append, hall]
    simp [Token.ofChars]

end Tiles

/-! ## The tokens of a line -/

/-- How `tokens`, the end of the line behind them, and the reports of a scanner divide up `text`. -/
structure IsPartition (text : String) (tokens : List Token) (reports : List Diagnostic) :
    Prop where
  ne_endOfLine : ∀ t ∈ tokens, t.kind ≠ .endOfLine
  start_lt_stop : ∀ t ∈ tokens, t.span.start < t.span.stop
  stop_le_length : ∀ t ∈ tokens, t.span.stop ≤ text.length
  pairwise : tokens.Pairwise fun t u => t.span.stop ≤ u.span.start
  textIn_eq : ∀ t ∈ tokens ++ [.endAt text.length], t.textIn text = t.text
  /-- The blanks are the characters outside the tokens. -/
  isBlank_iff : ∀ i c, text.toList[i]? = some c →
    (isBlank c = true ↔ ∀ t ∈ tokens, ¬ t.span.Contains i)
  /-- The tokens, one after the other, are the text without its blanks. -/
  join_text : String.join ((tokens ++ [Token.endAt text.length]).map (·.text)) =
    String.ofList (text.toList.filter fun c => !isBlank c)
  length_of_invalid : ∀ t ∈ tokens, t.kind = .invalid → t.span.length = 1
  /-- There is one report for each invalid token, at its span. -/
  reports_eq : reports.map (fun d => (d.code, d.span)) =
    (tokens.filter (·.kind = .invalid)).map fun t =>
      (Diagnostic.Code.invalidCharacter.name, t.span)

theorem map_span_complaints (tokens : List Token) :
    (complaints tokens).map (fun d => (d.code, d.span)) =
      (tokens.filter (·.kind = .invalid)).map fun t =>
        (Diagnostic.Code.invalidCharacter.name, t.span) := by
  rw [complaints, List.map_map]
  rfl

theorem Tiles.textIn_eq {text : String} {tokens : List Token} (h : Tiles 0 text.toList tokens)
    {t : Token} (ht : t ∈ tokens) : t.textIn text = t.text := by
  have hslice : t.textIn text = t.span.slice text := by
    rw [Token.textIn]
    split
    · exact absurd (by assumption) (h.ne_endOfLine t ht)
    · rfl
  rw [hslice, h.text_eq t ht, Span.slice, Nat.sub_zero]

/-- **No character is lost and none is taken twice.** The tokens of a line end with the end of the
line, and only there. Those before it are not empty, stand in order within the text, do not overlap,
and cover all of it but the blanks. The scanner has reported the invalid ones, each of them a single
character. -/
theorem tokensOf_partition (text : String) :
    ∃ tokens, tokensOf text = tokens ++ [.endAt text.length] ∧
      IsPartition text tokens (Scanner.ofText text).drain.2.diagnostics := by
  obtain ⟨tokens, hdrain, htiles⟩ := (Scanner.ofText text).exists_tiles_drain
  have hoffset : (Scanner.ofText text).offset + (Scanner.ofText text).rest.length = text.length :=
    (Nat.zero_add _).trans String.length_toList
  rw [hoffset] at hdrain
  have htiles : Tiles 0 text.toList tokens := htiles
  refine ⟨tokens, hdrain, {
    ne_endOfLine := htiles.ne_endOfLine
    start_lt_stop := fun t ht => (htiles.span_bounds t ht).2.1
    stop_le_length := fun t ht => ?_
    pairwise := htiles.pairwise
    textIn_eq := fun t ht => ?_
    isBlank_iff := fun i c hc => ?_
    join_text := ?_
    length_of_invalid := htiles.length_of_invalid
    reports_eq := ?_ }⟩
  · have := (htiles.span_bounds t ht).2.2
    rwa [Nat.zero_add, String.length_toList] at this
  · rcases List.mem_append.mp ht with ht | ht
    · exact htiles.textIn_eq ht
    · rw [List.mem_singleton.mp ht]
      rfl
  · rw [htiles.isBlank_iff hc, Nat.zero_add]
  · rw [String.join_eq, ← htiles.flatMap_text]
    simp [List.flatMap_def, Token.endAt, Function.comp_def]
  · rw [Scanner.diagnostics_drain, hdrain, ← map_span_complaints]
    simp [complaints, Scanner.ofText, Token.endAt]

end Numeral
