import Numeral.Proofs.Lexeme
import Numeral.Proofs.LineDiagnostics

/-!
# A line is cut at its separators

A separator is a character that belongs to no word. What a scanner makes of the characters in front
of one does not depend on those behind it, and what it makes of those behind depends on the ones in
front by their number alone.

- `Scanner.IsShifted`: two scanners in front of the same characters at different offsets. One step
  keeps it (`Scanner.IsShifted.step`), so that draining does (`Scanner.IsShifted.drain`).
- `tokensFrom`, `tokensFrom_shift`: the tokens of characters, from any offset on.
- `tokensFrom_append`, `tokensFrom_separator`: the tokens of a text that is cut in front of a
  separator, and those from a separator on.
- `ofText_cut_at_separator`: the tokens and the diagnostics of a line that is cut at a separator.
-/

namespace Numeral

/-! ## Shifted tokens -/

section Shift

variable (distance offset : Nat) (kind : Kind) (cs : List Char)

private theorem Token.shift_endAt :
    (Token.endAt offset).shift distance = .endAt (offset + distance) :=
  rfl

private theorem Token.shift_ofChars :
    (Token.ofChars kind offset cs).shift distance = .ofChars kind (offset + distance) cs := by
  simp [Token.shift, ofChars, Span.shift, Span.ofLength, Nat.add_right_comm]

@[simp]
theorem Token.kind_shift (t : Token) : (t.shift distance).kind = t.kind :=
  rfl

theorem complaints_append (ts us : List Token) :
    complaints (ts ++ us) = complaints ts ++ complaints us := by
  rw [complaints, List.filter_append, List.map_append, ← complaints, ← complaints]

/-- The reports of tokens move with them. -/
theorem complaints_map_shift (ts : List Token) :
    complaints (ts.map (Token.shift distance)) =
      (complaints ts).map (Diagnostic.shift distance) := by
  have hkind : (fun t : Token => decide (t.kind = .invalid)) ∘ Token.shift distance =
      fun t => decide (t.kind = .invalid) := rfl
  rw [complaints, complaints, List.filter_map, hkind, List.map_map, List.map_map]
  rfl

end Shift

namespace Scanner

/-- Both scanners have the same characters left. The second one is `distance` characters further
right. -/
structure IsShifted (distance : Nat) (s s' : Scanner) : Prop where
  rest_eq : s'.rest = s.rest
  offset_eq : s'.offset = s.offset + distance

namespace IsShifted

variable {distance : Nat} {s s' : Scanner}

theorem advance (h : IsShifted distance s s') (n : Nat) :
    IsShifted distance (s.advance n) (s'.advance n) where
  rest_eq := by rw [rest_advance, rest_advance, h.rest_eq]
  offset_eq := by
    simp only [Scanner.advance, h.offset_eq]
    omega

theorem skipBlanks (h : IsShifted distance s s') :
    IsShifted distance s.skipBlanks s'.skipBlanks := by
  rw [Scanner.skipBlanks, Scanner.skipBlanks, h.rest_eq]
  exact h.advance _

/-- A step looks at the characters left, and at the offset only for the place of the token. -/
theorem step (h : IsShifted distance s s') :
    s'.step.1 = s.step.1.shift distance ∧ IsShifted distance s.step.2 s'.step.2 := by
  unfold Scanner.step
  rw [h.rest_eq]
  split
  · exact ⟨by rw [Token.shift_endAt, h.offset_eq], h⟩
  · split
    · refine ⟨?_, h.advance _⟩
      rw [accept, accept, Token.shift_ofChars, h.offset_eq, h.rest_eq]
    · refine ⟨?_, ⟨(h.advance 1).rest_eq, (h.advance 1).offset_eq⟩⟩
      rw [reject, reject, Token.shift_ofChars, h.offset_eq]

theorem next (h : IsShifted distance s s') :
    s'.next.1 = s.next.1.shift distance ∧ IsShifted distance s.next.2 s'.next.2 :=
  h.skipBlanks.step

theorem drain (h : IsShifted distance s s') :
    s'.drain.1 = s.drain.1.map (Token.shift distance) :=
  drain_eq_map (Token.kind_shift distance) (fun _ _ => next) (by rw [h.rest_eq]) h

end IsShifted

end Scanner

/-! ## Tokens from an offset on -/

/-- The scanner in front of `cs`, of which the first character stands at `offset`. -/
def Scanner.ofRest (offset : Nat) (cs : List Char) : Scanner where
  source := String.ofList cs
  offset := offset
  rest := cs
  diagnostics := []

/-- The tokens of `cs`, of which the first character stands at `offset`. -/
def tokensFrom (offset : Nat) (cs : List Char) : List Token :=
  (Scanner.ofRest offset cs).drain.1

theorem tokensOf_eq_tokensFrom (text : String) : tokensOf text = tokensFrom 0 text.toList := by
  rw [tokensOf, tokensFrom, Scanner.ofRest, String.ofList_toList]
  rfl

/-- The tokens of a scanner depend on nothing but its offset and the characters left. -/
theorem Scanner.drain_eq_tokensFrom (s : Scanner) : s.drain.1 = tokensFrom s.offset s.rest := by
  have hshift : IsShifted 0 s (.ofRest s.offset s.rest) := ⟨rfl, rfl⟩
  have hid : Token.shift 0 = id := rfl
  rw [tokensFrom, hshift.drain, hid, List.map_id]

theorem tokensFrom_shift (offset distance : Nat) (cs : List Char) :
    tokensFrom (offset + distance) cs = (tokensFrom offset cs).map (Token.shift distance) :=
  Scanner.IsShifted.drain ⟨rfl, rfl⟩

section From

variable {offset : Nat} {c : Char} {cs w r : List Char}

theorem tokensFrom_ne_nil (offset : Nat) (cs : List Char) : tokensFrom offset cs ≠ [] := by
  rw [tokensFrom, Scanner.drain_eq]
  split <;> simp

theorem tokensFrom_nil (offset : Nat) : tokensFrom offset [] = [.endAt offset] := by
  rw [tokensFrom, Scanner.drain_of_rest_eq_nil rfl]
  rfl

theorem tokensFrom_tokenWord (hr : StartsNoWord r) (ht : isTokenWord w = true) :
    tokensFrom offset (w ++ r) =
      .ofChars (kindOfWord w) offset w :: tokensFrom (offset + w.length) r := by
  have hadvance : ((Scanner.ofRest offset (w ++ r)).advance w.length).rest = r := List.drop_left
  rw [tokensFrom, Scanner.drain_tokenWord rfl (ne_nil_of_isTokenWord ht)
    (isWord_of_isTokenWord ht) hr ht, Scanner.drain_eq_tokensFrom, hadvance]
  rfl

theorem tokensFrom_word_of_not_tokenWord (hw : ∀ d ∈ c :: w, isWord d = true)
    (hr : StartsNoWord r) (ht : isTokenWord (c :: w) = false) :
    tokensFrom offset (c :: w ++ r) =
      .ofChars .invalid offset [c] :: tokensFrom (offset + 1) (w ++ r) := by
  rw [tokensFrom, Scanner.drain_word_of_not_tokenWord rfl hw hr ht, Scanner.drain_eq_tokensFrom]
  rfl

/-- The token of the separator `c` at `offset`, unless it is a blank. -/
def separatorTokens (offset : Nat) (c : Char) : List Token :=
  if isBlank c then [] else [.ofChars ((symbolKind? c).getD .invalid) offset [c]]

theorem tokensFrom_separator (hc : isWord c = false) :
    tokensFrom offset (c :: cs) = separatorTokens offset c ++ tokensFrom (offset + 1) cs := by
  rw [separatorTokens, tokensFrom]
  cases hb : isBlank c with
  | true =>
    rw [Scanner.drain_blank rfl hb, Scanner.drain_eq_tokensFrom]
    rfl
  | false =>
    cases hk : symbolKind? c with
    | some kind =>
      rw [Scanner.drain_symbol rfl hk, Scanner.drain_eq_tokensFrom]
      rfl
    | none =>
      rw [Scanner.drain_of_not_symbol rfl hb hc hk, Scanner.drain_eq_tokensFrom]
      rfl

theorem startsNoWord_append (hw : StartsNoWord w) (hr : StartsNoWord r) :
    StartsNoWord (w ++ r) := by
  cases w with
  | nil => exact hr
  | cons c w => exact startsNoWord_cons (hw c (by simp))

/-- **Cutting a text.** In front of characters that start no word, a text has the tokens that it has
on its own, without the end of the line. -/
theorem tokensFrom_append (hr : StartsNoWord r) (offset : Nat) (cs : List Char) :
    tokensFrom offset (cs ++ r) =
      (tokensFrom offset cs).dropLast ++ tokensFrom (offset + cs.length) r := by
  -- Every token and every blank shortens the text.
  induction hn : cs.length using Nat.strong_induction_on generalizing offset cs with
  | _ n ih =>
    subst hn
    cases cs with
    | nil => simp [tokensFrom_nil]
    | cons c cs =>
      cases hc : isWord c with
      | false =>
        rw [List.cons_append, tokensFrom_separator hc, tokensFrom_separator hc,
          ih cs.length (by simp) _ _ rfl, List.dropLast_append_of_ne_nil (tokensFrom_ne_nil _ _),
          List.append_assoc, List.length_cons, Nat.add_assoc, Nat.add_comm 1]
      | true =>
        obtain ⟨w, r', he, hne, hw, hr'⟩ := exists_word_append cs hc
        have hlength := congrArg List.length he
        have hr'' := startsNoWord_append hr' hr
        rw [List.length_append] at hlength
        cases ht : isTokenWord w with
        | true =>
          have hpos := List.length_pos_of_ne_nil hne
          rw [hlength, he, List.append_assoc, tokensFrom_tokenWord hr'' ht,
            tokensFrom_tokenWord hr' ht, ih r'.length (by omega) _ _ rfl,
            List.dropLast_cons_of_ne_nil (tokensFrom_ne_nil _ _), Nat.add_assoc]
          rfl
        | false =>
          -- The word loses its first character, and goes on with the others.
          obtain ⟨d, w, rfl⟩ := List.exists_cons_of_ne_nil hne
          rw [List.cons_append, List.cons_eq_cons] at he
          obtain ⟨rfl, rfl⟩ := he
          rw [← List.cons_append, tokensFrom_word_of_not_tokenWord hw hr' ht, List.append_assoc,
            tokensFrom_word_of_not_tokenWord hw hr'' ht, ← List.append_assoc,
            ih (w ++ r').length (by simp) _ _ rfl,
            List.dropLast_cons_of_ne_nil (tokensFrom_ne_nil _ _), Nat.add_assoc, Nat.add_comm 1]
          rfl

/-- The end of the line is the last token. -/
theorem tokensFrom_eq_concat (offset : Nat) (cs : List Char) :
    tokensFrom offset cs =
      (tokensFrom offset cs).dropLast ++ [.endAt (offset + cs.length)] := by
  have hcut := tokensFrom_append (r := []) (by simp [StartsNoWord]) offset cs
  rwa [List.append_nil, tokensFrom_nil] at hcut

/-- The report of the separator `c` at `offset`, unless it is a blank or a symbol. -/
def separatorReports (offset : Nat) (c : Char) : List Diagnostic :=
  if isBlank c ∨ (symbolKind? c).isSome then [] else [.ofInvalidCharacter offset c]

private theorem complaints_separatorTokens (offset : Nat) (c : Char) :
    complaints (separatorTokens offset c) = separatorReports offset c := by
  rw [separatorTokens, separatorReports]
  cases hb : isBlank c with
  | true => rw [if_pos rfl, if_pos (.inl rfl), complaints_nil]
  | false =>
    rw [if_neg Bool.false_ne_true]
    cases hk : symbolKind? c with
    | some kind => simp [complaints_cons_of_ne, Token.ofChars, ne_invalid_of_symbolKind? hk]
    | none =>
      rw [if_neg (by simp), complaints_cons_of_invalid rfl]
      rfl

end From

/-! ## Lines -/

private theorem Line.ofText_eq (text : String) :
    ofText text = ⟨text, tokensOf text, complaints (tokensOf text)⟩ := by
  rw [← diagnostics_ofText]
  rfl

/-- **A line falls apart at every separator.** The tokens are those of the text in front, without
the end of the line, the separator itself unless it is a blank, and those of the text behind, moved
to their place. The diagnostics are those of the parts in the same order. -/
theorem ofText_cut_at_separator (a b : String) {c : Char} (hc : isWord c = false) :
    ∃ before, tokensOf a = before ++ [.endAt a.length] ∧
      Line.ofText (a ++ String.singleton c ++ b) =
        { source := a ++ String.singleton c ++ b
          tokens := before ++ separatorTokens a.length c ++
            (tokensOf b).map (Token.shift (a.length + 1))
          diagnostics := (Line.ofText a).diagnostics ++ separatorReports a.length c ++
            (Line.ofText b).diagnostics.map (Diagnostic.shift (a.length + 1)) } := by
  have ha : tokensOf a = (tokensOf a).dropLast ++ [.endAt a.length] := by
    have hconcat := tokensFrom_eq_concat 0 a.toList
    rwa [← tokensOf_eq_tokensFrom, Nat.zero_add, String.length_toList] at hconcat
  have htokens : tokensOf (a ++ String.singleton c ++ b) =
      (tokensOf a).dropLast ++ separatorTokens a.length c ++
        (tokensOf b).map (Token.shift (a.length + 1)) := by
    have hchars : (a ++ String.singleton c ++ b).toList = a.toList ++ c :: b.toList := by simp
    have hshift := tokensFrom_shift 0 (a.length + 1) b.toList
    rw [Nat.zero_add, ← tokensOf_eq_tokensFrom] at hshift
    rw [tokensOf_eq_tokensFrom, hchars, tokensFrom_append (startsNoWord_cons hc),
      tokensFrom_separator hc, String.length_toList, Nat.zero_add, hshift, ← tokensOf_eq_tokensFrom,
      List.append_assoc]
  have hreports : complaints (tokensOf a).dropLast = (Line.ofText a).diagnostics := by
    have hend : complaints [.endAt a.length] = [] := rfl
    rw [Line.diagnostics_ofText, ha, List.dropLast_concat, complaints_append, hend, List.append_nil]
  refine ⟨(tokensOf a).dropLast, ha, ?_⟩
  rw [Line.ofText_eq, htokens, complaints_append, complaints_append, complaints_separatorTokens,
    complaints_map_shift, hreports, Line.diagnostics_ofText b]

theorem ofText_cut_at_separator_invalid :
    isWord '§' = false ∧
      (Line.ofText ("1Z" ++ String.singleton '§' ++ "bin")).tokens =
        [⟨.invalid, "1", .ofLength 0 1⟩, ⟨.identifier, "Z", .ofLength 1 1⟩,
          ⟨.invalid, "§", .ofLength 2 1⟩, ⟨.keyword .bin, "bin", .ofLength 3 3⟩, .endAt 6] ∧
      (Line.ofText ("1Z" ++ String.singleton '§' ++ "bin")).diagnostics =
        [.ofInvalidCharacter 0 '1', .ofInvalidCharacter 2 '§'] := by
  have hc : isWord '§' = false := by decide +kernel
  obtain ⟨before, hbefore, hline⟩ := ofText_cut_at_separator "1Z" "bin" hc
  have htokens : tokensOf "1Z" =
      [⟨.invalid, "1", .ofLength 0 1⟩, ⟨.identifier, "Z", .ofLength 1 1⟩] ++ [.endAt 2] := by
    decide +kernel
  have hbefore : before = [⟨.invalid, "1", .ofLength 0 1⟩, ⟨.identifier, "Z", .ofLength 1 1⟩] :=
    List.append_inj_left' (hbefore.symm.trans htokens) rfl
  rw [hline, hbefore]
  exact ⟨hc, by decide +kernel, by decide +kernel⟩

end Numeral
