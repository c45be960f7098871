import Numeral.Proofs.DeclaredNames

/-!
# Tokens spaced out

The tokens of a line, written one after the other with spaces in between, are read as the same
tokens again. What stood around a token has no part in how it is read, since a token that is a word
takes all of it; only an invalid character can become a token of its own, where the word it was lost
from is gone.

- `IsLexeme`: the texts that a line can be cut into, with their kinds.
- `reread`: what a lexeme is read as on a line of its own (`IsLexeme.lexemes_eq`).
- `IsJoined.lexemes_eq`: a text that is put together with gaps is read piece by piece.
- `lexemes_spacedOut`: the lexemes of a line that is spaced out.
- `spacedOut_stable`: the same texts and kinds, and spacing out once more changes nothing.
-/

namespace Numeral

/-! ## One lexeme -/

/-- The texts that a line can be cut into, the end of the line apart. -/
inductive IsLexeme : Kind → List Char → Prop
  | word {w : List Char} : isTokenWord w = true → IsLexeme (kindOfWord w) w
  | symbol {kind : Kind} {c : Char} : symbolKind? c = some kind → IsLexeme kind [c]
  | invalid {c : Char} : isBlank c = false → symbolKind? c = none → IsLexeme .invalid [c]

/-- A lexeme as it is read on a line of its own: an invalid one can be a word there. -/
def reread : Kind × List Char → Kind × List Char
  | (.invalid, w) => (if isTokenWord w then kindOfWord w else .invalid, w)
  | l => l

section Lexemes

variable {kind : Kind} {c : Char} {w cs : List Char} {l : Kind × List Char}

private theorem snd_reread (l : Kind × List Char) : (reread l).2 = l.2 := by
  unfold reread
  split <;> rfl

theorem reread_of_ne_invalid (h : l.1 ≠ .invalid) : reread l = l := by
  unfold reread
  split
  · exact absurd rfl h
  · rfl

private theorem isLexeme_of_mem_dropLast (h : l ∈ (lexemes cs).dropLast) : IsLexeme l.1 l.2 := by
  -- Every lexeme shortens the text.
  induction hn : cs.length using Nat.strong_induction_on generalizing cs with
  | _ n ih =>
    have hbehind {first : Kind × List Char} {r : List Char} (he : lexemes cs = first :: lexemes r)
        (hlt : r.length < n) : l = first ∨ IsLexeme l.1 l.2 := by
      rw [he, List.dropLast_cons_of_ne_nil (lexemes_ne_nil r), List.mem_cons] at h
      exact h.imp_right fun h => ih r.length hlt h rfl
    rcases lexemes_cases cs with ⟨-, he⟩ | ⟨gap, w, r, rfl, -, -, ht, he⟩ |
      ⟨gap, c, r, kind, rfl, -, hk, he⟩ | ⟨gap, c, r, rfl, -, hb, hk, he⟩
    · rw [he] at h
      cases h
    · have hpos := List.length_pos_of_ne_nil (ne_nil_of_isTokenWord ht)
      simp only [List.length_append] at hn
      rcases hbehind he (by omega) with rfl | h
      · exact .word ht
      · exact h
    · simp only [List.length_append, List.length_cons] at hn
      rcases hbehind he (by omega) with rfl | h
      · exact .symbol hk
      · exact h
    · simp only [List.length_append, List.length_cons] at hn
      rcases hbehind he (by omega) with rfl | h
      · exact .invalid hb hk
      · exact h

theorem IsLexeme.ne_endOfLine (h : IsLexeme kind w) : kind ≠ .endOfLine := by
  cases h with
  | word => exact kindOfWord_ne_endOfLine w
  | symbol hk => exact ne_endOfLine_of_symbolKind? hk
  | invalid => simp

private theorem kindOfWord_ne_invalid (w : List Char) : kindOfWord w ≠ .invalid := by
  intro h
  have hword := isOfWord_kindOfWord w
  rw [h] at hword
  cases hword

/-- A character that is neither a blank nor a symbol is a word as a whole or stays invalid. -/
theorem lexemes_singleton (hb : isBlank c = false) (hk : symbolKind? c = none) :
    lexemes [c] = [reread (.invalid, [c]), (.endOfLine, [])] := by
  cases ht : isTokenWord [c] with
  | true =>
    rw [lexemes_of_isTokenWord ht, reread, if_pos ht]
  | false =>
    rw [reread, if_neg (by simp [ht])]
    cases hc : isWord c with
    | false =>
      rw [lexemes_separator hc, lexemesOfSeparator, hb, hk]
      rfl
    | true =>
      have hnil : StartsNoWord [] := by simp [StartsNoWord]
      rw [← List.append_nil [c], lexemes_word (by simpa using hc) hnil,
        lexemesOfWord_cons_of_not_tokenWord ht]
      rfl

/-- A lexeme is read on its own as the same text, and as the same kind unless it is invalid. -/
theorem IsLexeme.lexemes_eq (h : IsLexeme kind w) :
    lexemes w = [reread (kind, w), (.endOfLine, [])] := by
  cases h with
  | word ht => rw [lexemes_of_isTokenWord ht, reread_of_ne_invalid (kindOfWord_ne_invalid w)]
  | symbol hk =>
    rw [lexemes_symbol hk, reread_of_ne_invalid (ne_invalid_of_symbolKind? hk)]
    rfl
  | invalid hb hk => exact lexemes_singleton hb hk

end Lexemes

/-! ## Lexemes put together -/

/-- **Piece by piece.** Where gaps keep the pieces apart, and each piece on its own is read as one
lexeme, the text is read as these lexemes. -/
theorem IsJoined.lexemes_eq {pieces : List String} {cs : List Char} {ls : List (Kind × List Char)}
    (h : IsJoined pieces cs)
    (hread : List.Forall₂ (fun p l => lexemes p.toList = [l, (.endOfLine, [])]) pieces ls) :
    lexemes cs = ls ++ [(.endOfLine, [])] := by
  induction h generalizing ls with
  | nil =>
    cases hread
    exact lexemes_nil
  | single piece =>
    obtain _ | ⟨hpiece, ⟨⟩⟩ := hread
    exact hpiece
  | @cons piece next pieces gap cs hgap hne _ ih =>
    obtain _ | ⟨hpiece, hread⟩ := hread
    rw [lexemes_append _ (startsNoWord_gap hgap hne), lexemes_gap hgap, hpiece, ih hread]
    rfl

private theorem isJoined_intercalate (pieces : List String) :
    IsJoined pieces (" ".intercalate pieces).toList := by
  induction pieces with
  | nil => exact .nil
  | cons piece pieces ih =>
    cases pieces with
    | nil =>
      rw [String.intercalate_singleton]
      exact .single piece
    | cons next pieces =>
      have hgap : IsGap [' '] := by decide +kernel
      rw [String.intercalate_cons_cons, String.append_assoc, String.toList_append,
        String.toList_append]
      exact .cons hgap (by simp) ih

/-! ## Lines -/

/-- The texts of the tokens of a line, the end of the line apart, with a space between each two. -/
def spacedOut (text : String) : String :=
  " ".intercalate (((tokensOf text).filter (·.kind ≠ .endOfLine)).map (·.text))

theorem lexemes_eq_concat (cs : List Char) :
    lexemes cs = (lexemes cs).dropLast ++ [(.endOfLine, [])] := by
  simp [lexemes]

theorem filter_lexemes (cs : List Char) :
    (lexemes cs).filter (·.1 ≠ .endOfLine) = (lexemes cs).dropLast := by
  have hbefore : (lexemes cs).dropLast.filter (·.1 ≠ .endOfLine) = (lexemes cs).dropLast :=
    List.filter_eq_self.mpr fun l hl => by simpa using (isLexeme_of_mem_dropLast hl).ne_endOfLine
  rw [lexemes_eq_concat, List.filter_append, ← lexemes_eq_concat, hbefore]
  simp

/-- The texts that are spaced out are those of the lexemes. -/
theorem spacedOut_eq (text : String) :
    spacedOut text =
      " ".intercalate ((lexemes text.toList).dropLast.map fun l => String.ofList l.2) := by
  rw [spacedOut, ← filter_lexemes, ← lexemes_tokensOf, List.filter_map, List.map_map]
  refine congrArg _ (List.map_congr_left fun t _ => ?_)
  simp [Token.lexeme]

/-- A line that is spaced out has the lexemes of the line, each as it is read on its own. -/
theorem lexemes_spacedOut (text : String) :
    lexemes (spacedOut text).toList = (lexemes text.toList).map reread := by
  have hread : List.Forall₂ (fun p l => lexemes p.toList = [l, (.endOfLine, [])])
      ((lexemes text.toList).dropLast.map fun l => String.ofList l.2)
      ((lexemes text.toList).dropLast.map reread) := by
    rw [List.forall₂_map_left_iff, List.forall₂_map_right_iff, List.forall₂_same]
    intro l hl
    rw [String.toList_ofList]
    exact (isLexeme_of_mem_dropLast hl).lexemes_eq
  have hend := congrArg (List.map reread) (lexemes_eq_concat text.toList)
  rw [spacedOut_eq, (isJoined_intercalate _).lexemes_eq hread, hend, List.map_append]
  rfl

theorem spacedOut_spacedOut (text : String) : spacedOut (spacedOut text) = spacedOut text := by
  have htexts (l : Kind × List Char) : String.ofList (reread l).2 = String.ofList l.2 := by
    rw [snd_reread]
  rw [spacedOut_eq (spacedOut text), lexemes_spacedOut, ← List.map_dropLast, List.map_map,
    spacedOut_eq]
  exact congrArg _ (List.map_congr_left fun l _ => htexts l)

/-- The token `u` is `t` read once more: the text is the same, and so is the kind of `t` unless that
is invalid. Then it is the one that the text has as a word, if it is a token as a whole. -/
structure Token.IsReread (t u : Token) : Prop where
  text_eq : u.text = t.text
  kind_eq : t.kind ≠ .invalid → u.kind = t.kind
  kind_of_invalid : t.kind = .invalid →
    u.kind = if isTokenWord t.text.toList then kindOfWord t.text.toList else .invalid

theorem Token.isReread_of_lexeme_eq {t u : Token} (h : u.lexeme = reread t.lexeme) :
    t.IsReread u where
  text_eq := by
    have htext : u.lexeme.2 = t.lexeme.2 := by rw [h, snd_reread]
    exact String.toList_inj.mp htext
  kind_eq hkind := by
    rw [reread_of_ne_invalid hkind] at h
    exact congrArg Prod.fst h
  kind_of_invalid hkind := by
    rw [lexeme, lexeme, hkind] at h
    exact congrArg Prod.fst h

/-- **Spacing out is stable.** A line that is spaced out has as many tokens as the line, with the
same texts and, where they were not invalid, the same kinds. Spacing it out once more changes
nothing. If the line has no invalid token, all the kinds and texts are the same. -/
theorem spacedOut_stable (text : String) :
    List.Forall₂ Token.IsReread (tokensOf text) (tokensOf (spacedOut text)) ∧
    spacedOut (spacedOut text) = spacedOut text ∧
    ((∀ t ∈ tokensOf text, t.kind ≠ .invalid) →
      (tokensOf (spacedOut text)).map Token.lexeme = (tokensOf text).map Token.lexeme) := by
  have hlexemes : (tokensOf (spacedOut text)).map Token.lexeme =
      (tokensOf text).map fun t => reread t.lexeme := by
    rw [lexemes_tokensOf, lexemes_spacedOut, ← lexemes_tokensOf, List.map_map]
    rfl
  refine ⟨?_, spacedOut_spacedOut text, fun hvalid => ?_⟩
  · rw [← List.forall₂_eq_eq_eq, List.forall₂_map_left_iff, List.forall₂_map_right_iff] at hlexemes
    exact hlexemes.flip.imp fun _ _ => Token.isReread_of_lexeme_eq
  · rw [hlexemes]
    exact List.map_congr_left fun t ht => reread_of_ne_invalid (hvalid t ht)

example : spacedOut "1Z(0x1F)" = "1 Z ( 0 x1F )" ∧
    (tokensOf "1Z").map (·.kind) = [.invalid, .identifier, .endOfLine] ∧
    (tokensOf "1 Z").map (·.kind) = [.number .bin, .identifier, .endOfLine] := by
  decide +kernel

end Numeral
