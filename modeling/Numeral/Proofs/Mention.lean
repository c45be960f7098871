import Numeral.Expression
import Numeral.Proofs.Lexeme

/-!
# The names in a text

A text mentions a name if the name is one of its lexemes. What an expression asks of a scope is that
it holds the names which the text mentions, and no more.

- `Mentions.kindOfWord`: a name that is mentioned is an identifier as a whole.
- `mentions_append`: a text that is put together mentions the names of its parts.
- `Expression.mem_undeclared_iff`: the names that all mode reports.
- `Expression.isValid_iff_mentions`: a line is valid iff the scope holds all that it mentions.
-/

namespace Numeral

/-- `name` is an identifier among the lexemes of `cs`. -/
def Mentions (cs : List Char) (name : String) : Prop :=
  (.identifier, name.toList) ∈ lexemes cs

section Mentions

variable {cs r gap : List Char} {text name other : String} {c : Char} {b : Base} {kind : Kind}

/-- A name that is mentioned is an identifier as a whole, whatever stood around it. -/
theorem Mentions.kindOfWord (h : Mentions cs name) : kindOfWord name.toList = .identifier :=
  (isTokenWord_of_mem_lexemes h .identifier).2

theorem mentions_append (hr : StartsNoWord r) :
    Mentions (cs ++ r) name ↔ Mentions cs name ∨ Mentions r name :=
  mem_lexemes_append hr

theorem mentions_gap (hgap : IsGap gap) : Mentions (gap ++ cs) name ↔ Mentions cs name := by
  rw [Mentions, Mentions, lexemes_gap hgap]

theorem not_mentions_nil : ¬ Mentions [] name := by
  simp [Mentions, lexemes_nil]

theorem mentions_iff :
    Mentions text.toList name ↔ ∃ t ∈ tokensOf text, t.kind = .identifier ∧ t.text = name := by
  simp [Mentions, ← lexemes_tokensOf, Token.lexeme, String.toList_inj]

/-- An identifier mentions itself and nothing else. -/
theorem mentions_identifier (hkind : kindOfWord name.toList = .identifier) :
    Mentions name.toList other ↔ other = name := by
  have hname := (kindOfWord_eq_identifier_iff.mp hkind).1
  rw [Mentions, lexemes_of_isTokenWord (by simp [isTokenWord, hname])]
  simp [hkind, String.toList_inj]

theorem not_mentions_keyword {w : List Char} (h : IsKeyword b w) : ¬ Mentions w name := by
  have hkind := kindOfWord_eq_keyword_iff.mpr h
  rw [Mentions, lexemes_of_isTokenWord (by simp [isTokenWord, isName_of_isKeyword h])]
  simp [hkind]

theorem not_mentions_symbol (h : symbolKind? c = some kind) : ¬ Mentions [c] name := by
  have hkind : kind ≠ .identifier := fun hk =>
    not_isOfWord_of_symbolKind? h (hk ▸ Kind.IsOfWord.identifier)
  rw [Mentions, lexemes_symbol h, lexemes_nil]
  simp [hkind.symm]

end Mentions

namespace Expression

variable {text name : String} {scope : Scope} {mode : Mode}

/-- All mode reports the names of the text that the scope does not hold. -/
theorem mem_undeclared_iff :
    name ∈ (runLine (.ofText text) scope .all).verdict.undeclared ↔
      Mentions text.toList name ∧ name ∉ scope := by
  simp only [runLine, check, undeclared_all, Line.tokens_ofText, mentions_iff, List.mem_map,
    List.mem_filter, isUndeclared, Bool.and_eq_true, decide_eq_true_eq]
  constructor
  · rintro ⟨t, ⟨ht, hkind, hscope⟩, rfl⟩
    exact ⟨⟨t, ht, hkind, rfl⟩, hscope⟩
  · rintro ⟨⟨t, ht, hkind, rfl⟩, hscope⟩
    exact ⟨t, ⟨ht, hkind, hscope⟩, rfl⟩

theorem isValid_iff_mentions :
    (runLine (.ofText text) scope mode).isValid = true ↔
      ∀ name, Mentions text.toList name → name ∈ scope := by
  rw [isValid_runLine_iff, Line.tokens_ofText]
  simp only [mentions_iff]
  constructor
  · rintro h name ⟨t, ht, hkind, rfl⟩
    exact h t ht hkind
  · exact fun h t ht hkind => h t.text ⟨t, ht, hkind, rfl⟩

end Expression

end Numeral
