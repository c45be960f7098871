import Numeral.Proofs.DeclarationText
import Numeral.Proofs.FirstWins
import Numeral.Proofs.Mention

/-!
# Declared names stay usable

A name gets into a scope only as an identifier of a line, so that on its own it is read as the same
identifier again. An expression that is put together of declared names, keywords, symbols and
numbers, with blanks in between, is valid.

- `kindOfWord_of_declaredAlone`: what a line declares is an identifier as a whole.
- `Scope.IsReachable`: the scopes that declarations give, one after the other, from the empty one.
- `Scope.IsPiece`, `IsJoined`: what such an expression is put together of, and how.
- `Scope.HasIdentifiers.mem_of_isPiece`, `IsJoined.exists_mentions`: what it mentions is declared.
- `reachable_names_usable`: both statements about every reachable scope.
-/

namespace Numeral

/-! ## Names that lines declare -/

theorem kindOfWord_of_declaredAlone {line name : String} {b : Base}
    (h : declaredAlone line = some (name, b)) : kindOfWord name.toList = .identifier := by
  obtain ⟨d, hd, he⟩ := declaredAlone_eq_some_iff.mp h
  cases he
  have htokens := Declaration.declaration?_judge (tokensOf line) .empty
  rw [← Declaration.alone, hd, Declaration.Verdict.declaration?] at htokens
  obtain ⟨k, b, w, ls, hlexemes⟩ := Declaration.exists_lexemes_of_ofTokens? htokens.symm
  rw [lexemes_tokensOf] at hlexemes
  have hmentions : Mentions line.toList d.name.text := by simp [Mentions, hlexemes]
  exact hmentions.kindOfWord

/-- A line takes no tokens but its own. -/
theorem Line.eq_ofText_of_resolve {text : String} {given : Option String} {line : Line}
    (h : Line.resolve text (given.map Line.ofText) = .ok line) : line = .ofText text := by
  cases given with
  | none =>
    cases h
    rfl
  | some other =>
    rw [Option.map_some, Line.resolve] at h
    split at h
    · rename_i hsource
      cases h
      exact congrArg Line.ofText hsource
    · cases h

/-- A run leaves the scope that the tokens of its line give, whether it read them or was given
them. -/
theorem Declaration.eq_judge_of_run {text : String} {scope after : Scope} {given : Option String}
    {r : Run} (h : run text scope (given.map Line.ofText) = .ok (r, after)) :
    after = (judge (tokensOf text) scope).2 := by
  unfold run at h
  cases hline : Line.resolve text (given.map Line.ofText) with
  | error e =>
    rw [hline] at h
    cases h
  | ok line =>
    rw [hline] at h
    cases Line.eq_ofText_of_resolve hline
    cases h
    rfl

namespace Scope

/-- Every name of the scope is an identifier as a whole. -/
def HasIdentifiers (s : Scope) : Prop :=
  ∀ name ∈ s, kindOfWord name.toList = .identifier

theorem hasIdentifiers_empty : empty.HasIdentifiers :=
  fun name h => absurd h (not_mem_empty name)

/-- A line that is judged as a declaration adds identifiers only. -/
theorem HasIdentifiers.judge {scope : Scope} (h : scope.HasIdentifiers) (line : String) :
    (Declaration.judge (tokensOf line) scope).2.HasIdentifiers := by
  intro name hname
  rcases mem_judge_iff.mp hname with hmem | ⟨b, hb⟩
  · exact h name hmem
  · exact kindOfWord_of_declaredAlone hb

/-- The scopes that runs of declarations give from the empty one. A run can be given the tokens of
some line, which are refused unless the line is its own. -/
inductive IsReachable : Scope → Prop
  | empty : IsReachable .empty
  | run {scope after : Scope} {text : String} {given : Option String} {r : Declaration.Run} :
      IsReachable scope → Declaration.run text scope (given.map Line.ofText) = .ok (r, after) →
        IsReachable after

theorem IsReachable.hasIdentifiers {scope : Scope} (h : scope.IsReachable) :
    scope.HasIdentifiers := by
  induction h with
  | empty => exact hasIdentifiers_empty
  | run _ hrun ih =>
    rw [Declaration.eq_judge_of_run hrun]
    exact ih.judge _

/-! ## Expressions over declared names -/

/-- The texts that an expression over the names of a scope can be put together of. -/
inductive IsPiece (scope : Scope) : String → Prop
  | name {name : String} : name ∈ scope → IsPiece scope name
  | keyword {text : String} (b : Base) : IsKeyword b text.toList → IsPiece scope text
  | symbol {c : Char} : c ∈ ['+', '-', '*', '/', '(', ')', ';'] → IsPiece scope (.singleton c)
  | number {text : String} {t : Token} {offset : Nat} :
      tokensOf text = [t, .endAt offset] → t.kind.isNumber = true → IsPiece scope text

variable {scope : Scope} {text name : String}

/-- On its own a piece mentions declared names only. -/
theorem HasIdentifiers.mem_of_isPiece (h : scope.HasIdentifiers) (hpiece : scope.IsPiece text)
    (hname : Mentions text.toList name) : name ∈ scope := by
  cases hpiece with
  | name hmem =>
    rw [mentions_identifier (h text hmem)] at hname
    exact hname ▸ hmem
  | keyword b hkeyword => exact absurd hname (not_mentions_keyword hkeyword)
  | @symbol c hc =>
    have hsymbol : ∃ kind, symbolKind? c = some kind := by
      simp only [List.mem_cons, List.not_mem_nil, or_false] at hc
      rcases hc with rfl | rfl | rfl | rfl | rfl | rfl | rfl <;> exact ⟨_, rfl⟩
    obtain ⟨kind, hkind⟩ := hsymbol
    rw [String.toList_singleton] at hname
    exact absurd hname (not_mentions_symbol hkind)
  | number htokens hnumber =>
    obtain ⟨t, ht, hkind, -⟩ := mentions_iff.mp hname
    rw [htokens, List.mem_cons, List.mem_singleton] at ht
    rcases ht with rfl | rfl
    · rw [hkind] at hnumber
      cases hnumber
    · cases hkind

end Scope

/-- `cs` is put together of `pieces` in their order, with blanks between neighbours. -/
inductive IsJoined : List String → List Char → Prop
  | nil : IsJoined [] []
  | single (piece : String) : IsJoined [piece] piece.toList
  | cons {piece next : String} {pieces : List String} {gap cs : List Char} :
      IsGap gap → gap ≠ [] → IsJoined (next :: pieces) cs →
        IsJoined (piece :: next :: pieces) (piece.toList ++ (gap ++ cs))

/-- What a text mentions that is put together of pieces, is mentioned by one of them. -/
theorem IsJoined.exists_mentions {pieces : List String} {cs : List Char} {name : String}
    (h : IsJoined pieces cs) (hname : Mentions cs name) :
    ∃ piece ∈ pieces, Mentions piece.toList name := by
  induction h with
  | nil => exact absurd hname not_mentions_nil
  | single piece => exact ⟨piece, List.mem_singleton_self piece, hname⟩
  | @cons piece next pieces gap cs hgap hne _ ih =>
    -- The blanks keep the piece apart from what is behind them.
    rw [mentions_append (startsNoWord_gap hgap hne), mentions_gap hgap] at hname
    rcases hname with hname | hname
    · exact ⟨piece, List.mem_cons_self, hname⟩
    · obtain ⟨p, hp, hname⟩ := ih hname
      exact ⟨p, List.mem_cons_of_mem piece hp, hname⟩

/-- **Declared names stay usable.** A name of a reachable scope is read on its own as that
identifier, so that it is no keyword, not empty and free of blanks. Every expression is valid that
is put together of declared names, keywords, symbols and single numbers with blanks in between. -/
theorem reachable_names_usable {scope : Scope} (h : scope.IsReachable) :
    (∀ name ∈ scope,
      tokensOf name = [⟨.identifier, name, .ofLength 0 name.length⟩, .endAt name.length] ∧
      (∀ b, ¬ IsKeyword b name.toList) ∧ name ≠ "" ∧ ∀ c ∈ name.toList, isBlank c = false) ∧
    ∀ (pieces : List String) (text : String), (∀ piece ∈ pieces, scope.IsPiece piece) →
      IsJoined pieces text.toList →
      ∀ mode, ∃ r, Expression.run text scope mode = .ok r ∧ r.isValid = true := by
  constructor
  · intro name hname
    have hkind := h.hasIdentifiers name hname
    obtain ⟨hshape, hkeyword⟩ := kindOfWord_eq_identifier_iff.mp hkind
    have ht : isTokenWord name.toList = true := by simp [isTokenWord, hshape]
    refine ⟨by rw [tokensOf_word ht, hkind], hkeyword, ?_,
      fun c hc => isBlank_eq_false_of_isWord (isWord_of_isTokenWord ht c hc)⟩
    rintro rfl
    cases hshape
  · intro pieces text hpieces hjoined mode
    refine ⟨_, rfl, Expression.isValid_iff_mentions.mpr fun name hname => ?_⟩
    obtain ⟨piece, hpiece, hname⟩ := hjoined.exists_mentions hname
    exact h.hasIdentifiers.mem_of_isPiece (hpieces piece hpiece) hname

theorem reachable_names_usable_folded :
    let scope := (Declaration.judge (tokensOf "hex bınX 1F;") .empty).2
    scope.IsReachable ∧ "bınX" ∈ scope ∧
      tokensOf "bınX" = [⟨.identifier, "bınX", .ofLength 0 4⟩, .endAt 4] ∧
      (∀ piece ∈ ["(", "bınX", "Bin", " 1F"], scope.IsPiece piece) ∧
      IsJoined ["(", "bınX", "Bin", " 1F"] "(\tbınX \nBin  1F".toList ∧
      ∃ r, Expression.run "(\tbınX \nBin  1F" scope .all = .ok r ∧ r.isValid = true := by
  intro scope
  have hreachable : scope.IsReachable :=
    @Scope.IsReachable.run .empty scope "hex bınX 1F;" none _ .empty (Declaration.run_eq _ _)
  have hname : "bınX" ∈ scope := by decide +kernel
  have hnumber : tokensOf " 1F" = [⟨.number .hex, "1F", .ofLength 1 2⟩, .endAt 3] := by
    decide +kernel
  have hpieces : ∀ piece ∈ ["(", "bınX", "Bin", " 1F"], scope.IsPiece piece := by
    simp only [List.forall_mem_cons]
    exact ⟨.symbol (c := '(') (by decide), .name hname, .keyword .bin (by decide +kernel),
      .number hnumber rfl, by simp⟩
  have htab : IsGap ['\t'] := by decide +kernel
  have hbreak : IsGap [' ', '\n'] := by decide +kernel
  have hspace : IsGap [' '] := by decide +kernel
  have hjoined : IsJoined ["(", "bınX", "Bin", " 1F"] "(\tbınX \nBin  1F".toList :=
    .cons htab (by simp) (.cons hbreak (by simp) (.cons hspace (by simp) (.single " 1F")))
  obtain ⟨hnames, hvalid⟩ := reachable_names_usable hreachable
  exact ⟨hreachable, hname, (hnames _ hname).1, hpieces, hjoined, hvalid _ _ hpieces hjoined .all⟩

end Numeral
