import Numeral.Proofs.Tiling

/-!
# Where diagnostics point

The span of a diagnostic lies in its line and covers what the diagnostic is about. An invalid
character, a taken name, a wrong value and an undeclared name are covered as tokens; a malformed
line is covered from its first character that is no blank up to its end.

- `slice_of_mem_tokensOf`: the span of a token covers its text.
- `pairwise_start_tokensOf`: tokens start one behind the other.
- `spanOf_tokensOf`: the span from the first to the last token of a line.
- `PointAtInvalid`: reports that cover the invalid tokens of a line, one after the other.
- `Declaration.Run.IsPlacedIn`, `Expression.Run.IsPlacedIn`: what the diagnostics of a line cover.
- `diagnostics_cover_their_subject`: the diagnostics of every line do so.
-/

namespace Numeral

/-! ## The tokens of a line -/

/-- The offset of the first character that is no blank; without one, the end of the line. -/
def indentOf (text : String) : Nat :=
  text.toList.findIdx fun c => !isBlank c

private theorem indentOf_le_length (text : String) : indentOf text ≤ text.length := by
  rw [indentOf, ← String.length_toList]
  exact List.findIdx_le_length

theorem exists_tiles_tokensOf (text : String) :
    ∃ tokens, tokensOf text = tokens ++ [.endAt text.length] ∧ Tiles 0 text.toList tokens := by
  obtain ⟨tokens, hdrain, htiles⟩ := (Scanner.ofText text).exists_tiles_drain
  have hstop : (Scanner.ofText text).offset + (Scanner.ofText text).rest.length = text.length :=
    (Nat.zero_add _).trans String.length_toList
  rw [hstop] at hdrain
  exact ⟨tokens, hdrain, htiles⟩

/-- The first token, or the end of the line where there is none, stands behind the blanks that come
first. -/
theorem Tiles.exists_cons {offset : Nat} {cs : List Char} {tokens : List Token}
    (h : Tiles offset cs tokens) :
    ∃ t ts, tokens ++ [.endAt (offset + cs.length)] = t :: ts ∧
      t.span.start = offset + cs.findIdx fun c => !isBlank c := by
  induction h with
  | nil offset => exact ⟨_, _, rfl, rfl⟩
  | @blank offset c cs tokens hc _ ih =>
    obtain ⟨t, ts, he, hstart⟩ := ih
    have hstop : offset + 1 + cs.length = offset + (c :: cs).length := by
      rw [List.length_cons]
      omega
    rw [hstop] at he
    refine ⟨t, ts, he, ?_⟩
    rw [hstart, List.findIdx_cons, hc]
    simp only [Bool.not_true, cond_false]
    omega
  | @token offset kind w cs tokens hne hw _ _ _ _ =>
    obtain ⟨c, w, rfl⟩ := List.exists_cons_of_ne_nil hne
    have hc : isBlank c = false := hw c List.mem_cons_self
    refine ⟨_, _, rfl, ?_⟩
    rw [List.cons_append, List.findIdx_cons, hc]
    rfl

section Tokens

variable {text : String} {t : Token}

/-- The span of a token covers its text. -/
theorem slice_of_mem_tokensOf (ht : t ∈ tokensOf text) : t.span.slice text = t.text := by
  obtain ⟨tokens, he, htiles⟩ := exists_tiles_tokensOf text
  rw [he, List.mem_append, List.mem_singleton] at ht
  rcases ht with ht | rfl
  · rw [htiles.text_eq t ht, Nat.sub_zero, Span.slice]
  · simp [Token.endAt, Span.slice]

theorem stop_le_of_mem_tokensOf (ht : t ∈ tokensOf text) : t.span.stop ≤ text.length := by
  obtain ⟨tokens, he, htiles⟩ := exists_tiles_tokensOf text
  rw [he, List.mem_append, List.mem_singleton] at ht
  rcases ht with ht | rfl
  · have hstop := (htiles.span_bounds t ht).2.2
    rwa [Nat.zero_add, String.length_toList] at hstop
  · exact Nat.le_refl _

/-- An invalid token is a single character. -/
theorem length_text_of_invalid (ht : t ∈ tokensOf text) (hkind : t.kind = .invalid) :
    t.text.length = 1 := by
  obtain ⟨tokens, he, htiles⟩ := exists_tiles_tokensOf text
  rw [he, List.mem_append, List.mem_singleton] at ht
  rcases ht with ht | rfl
  · obtain ⟨-, -, hstop⟩ := htiles.span_bounds t ht
    have hlength := htiles.length_of_invalid t ht hkind
    rw [Span.length] at hlength
    rw [htiles.text_eq t ht, Span.length, String.length_ofList, List.length_take, List.length_drop]
    omega
  · cases hkind

/-- Tokens start one behind the other, the end of the line behind them all. -/
theorem pairwise_start_tokensOf (text : String) :
    (tokensOf text).Pairwise fun t u => t.span.start < u.span.start := by
  obtain ⟨tokens, he, htiles⟩ := exists_tiles_tokensOf text
  rw [he, List.pairwise_append]
  refine ⟨?_, List.pairwise_singleton _ _, fun t ht u hu => ?_⟩
  · refine htiles.pairwise.imp_of_mem fun {t u} ht _ hle => ?_
    exact Nat.lt_of_lt_of_le (htiles.span_bounds t ht).2.1 hle
  · obtain ⟨-, hlt, hstop⟩ := htiles.span_bounds t ht
    rw [Nat.zero_add, String.length_toList] at hstop
    rw [List.mem_singleton.mp hu]
    exact Nat.lt_of_lt_of_le hlt hstop

/-- From the first to the last token: the line without the blanks that come first. -/
theorem spanOf_tokensOf (text : String) :
    (Declaration.spanOf (tokensOf text)).start = indentOf text ∧
      (Declaration.spanOf (tokensOf text)).stop = text.length := by
  obtain ⟨tokens, he, htiles⟩ := exists_tiles_tokensOf text
  obtain ⟨t, ts, hcons, hstart⟩ := htiles.exists_cons
  rw [Nat.zero_add, String.length_toList, ← he] at hcons
  rw [Nat.zero_add, ← indentOf] at hstart
  have hlast : (t :: ts).getLast (List.cons_ne_nil t ts) = .endAt text.length := by
    have hlast? := congrArg List.getLast? he
    rw [hcons, List.getLast?_concat,
      List.getLast?_eq_some_getLast (List.cons_ne_nil t ts)] at hlast?
    exact Option.some.inj hlast?
  have hstop : t.span.stop ≤ text.length :=
    stop_le_of_mem_tokensOf (hcons ▸ List.mem_cons_self)
  rw [hcons, Declaration.spanOf, hlast]
  constructor
  · exact (Nat.min_eq_left (hstart ▸ indentOf_le_length text)).trans hstart
  · exact Nat.max_eq_right hstop

end Tokens

/-! ## Invalid characters -/

/-- There is one report for each invalid token of the line, in their order. It covers the token,
which is a single character. -/
structure PointAtInvalid (text : String) (reports : List Diagnostic) : Prop where
  code_eq : ∀ d ∈ reports, d.code = Diagnostic.Code.invalidCharacter.name
  slices_eq : reports.map (·.span.slice text) =
    ((tokensOf text).filter (·.kind = .invalid)).map (·.text)
  length_slice : ∀ d ∈ reports, (d.span.slice text).length = 1
  pairwise_start : reports.Pairwise fun d e => d.span.start < e.span.start

private theorem exists_of_mem_complaints {d : Diagnostic} {ts : List Token}
    (h : d ∈ complaints ts) : ∃ t ∈ ts, t.kind = .invalid ∧ d.span = t.span := by
  obtain ⟨t, ht, rfl⟩ := List.mem_map.mp h
  obtain ⟨hmem, hkind⟩ := List.mem_filter.mp ht
  exact ⟨t, hmem, of_decide_eq_true hkind, rfl⟩

private theorem pointAtInvalid_complaints (text : String) :
    PointAtInvalid text (complaints (tokensOf text)) where
  code_eq _ hd := code_of_mem_complaints hd
  slices_eq := by
    rw [complaints, List.map_map]
    refine List.map_congr_left fun t ht => ?_
    exact slice_of_mem_tokensOf (List.mem_filter.mp ht).1
  length_slice d hd := by
    obtain ⟨t, ht, hkind, hspan⟩ := exists_of_mem_complaints hd
    rw [hspan, slice_of_mem_tokensOf ht, length_text_of_invalid ht hkind]
  pairwise_start := by
    rw [complaints, List.pairwise_map]
    exact (pairwise_start_tokensOf text).filter _

private theorem stop_le_of_mem_complaints {text : String} {d : Diagnostic}
    (h : d ∈ complaints (tokensOf text)) : d.span.stop ≤ text.length := by
  obtain ⟨t, ht, -, hspan⟩ := exists_of_mem_complaints h
  rw [hspan]
  exact stop_le_of_mem_tokensOf ht

theorem Diagnostic.Code.eq_of_code_report {a b : Code} {span : Span} {message : Option String}
    (h : (a.report span message).code = b.name) : a = b :=
  name_injective h

namespace Declaration

/-! ## Declarations -/

/-- The parts of a declaration are among its tokens. -/
theorem mem_of_ofTokens? {tokens : List Token} {d : Declaration} (h : ofTokens? tokens = some d) :
    d.name ∈ tokens ∧ d.value ∈ tokens := by
  obtain ⟨keyword, semicolon, last, rest, rfl, -⟩ := ofTokens?_eq_some_iff.mp h
  simp

/-- What a report of the verdict `v` on `text` covers: the name or the value that `v` holds, or the
line from its first character that is no blank. -/
structure Verdict.Covers (v : Verdict) (text : String) (d : Diagnostic) : Prop where
  code_mem : d.code ∈ [Diagnostic.Code.grammarMismatch.name, Diagnostic.Code.duplicate.name,
    Diagnostic.Code.invalidValue.name]
  stop_le_length : d.span.stop ≤ text.length
  duplicate : d.code = Diagnostic.Code.duplicate.name → v.name? = some (d.span.slice text)
  invalidValue : d.code = Diagnostic.Code.invalidValue.name → v.value? = some (d.span.slice text)
  grammarMismatch : d.code = Diagnostic.Code.grammarMismatch.name →
    d.span.start = indentOf text ∧ d.span.stop = text.length

theorem covers_of_mem_diagnostics {text : String} {scope : Scope} {d : Diagnostic}
    (hd : d ∈ (judge (tokensOf text) scope).1.diagnostics) :
    (judge (tokensOf text) scope).1.Covers text d := by
  have hcode := Verdict.code_mem_of_mem_diagnostics hd
  have hparts := declaration?_judge (tokensOf text) scope
  -- Each verdict has its own code, so that the conditions on the other codes are void.
  cases hv : (judge (tokensOf text) scope).1 with
  | accepted e =>
    rw [hv] at hd
    cases hd
  | malformed span =>
    rw [hv] at hd hparts
    have hspan : span = spanOf (tokensOf text) := by
      rw [judge_of_none hparts.symm] at hv
      cases hv
      rfl
    obtain ⟨hstart, hstop⟩ := spanOf_tokensOf text
    cases List.mem_singleton.mp hd
    subst hspan
    refine ⟨hcode, Nat.le_of_eq hstop, fun h => ?_, fun h => ?_, fun _ => ⟨hstart, hstop⟩⟩
    · cases Diagnostic.Code.eq_of_code_report h
    · cases Diagnostic.Code.eq_of_code_report h
  | duplicate e =>
    rw [hv] at hd hparts
    obtain ⟨hname, -⟩ := mem_of_ofTokens? hparts.symm
    cases List.mem_singleton.mp hd
    refine ⟨hcode, stop_le_of_mem_tokensOf hname, fun _ => ?_, fun h => ?_, fun h => ?_⟩
    · exact congrArg some (slice_of_mem_tokensOf hname).symm
    · cases Diagnostic.Code.eq_of_code_report h
    · cases Diagnostic.Code.eq_of_code_report h
  | invalidValue e =>
    rw [hv] at hd hparts
    obtain ⟨-, hvalue⟩ := mem_of_ofTokens? hparts.symm
    cases List.mem_singleton.mp hd
    refine ⟨hcode, stop_le_of_mem_tokensOf hvalue, fun h => ?_, fun _ => ?_, fun h => ?_⟩
    · cases Diagnostic.Code.eq_of_code_report h
    · exact congrArg some (slice_of_mem_tokensOf hvalue).symm
    · cases Diagnostic.Code.eq_of_code_report h

theorem Verdict.length_diagnostics_le (v : Verdict) : v.diagnostics.length ≤ 1 := by
  cases v <;> simp [diagnostics]

/-- The diagnostics of a line that is judged as a declaration: those of its characters, and behind
them at most one of the declaration. All of them cover what they are about. -/
structure Run.IsPlacedIn (r : Run) (text : String) : Prop where
  exists_groups : ∃ characters found, r.diagnostics = characters ++ found ∧
    PointAtInvalid text characters ∧ found.length ≤ 1 ∧ ∀ d ∈ found, r.verdict.Covers text d
  stop_le_length : ∀ d ∈ r.diagnostics, d.span.stop ≤ text.length

theorem isPlacedIn_runLine (text : String) (scope : Scope) :
    (runLine (.ofText text) scope).1.IsPlacedIn text where
  exists_groups := by
    rw [verdict_runLine, Line.tokens_ofText]
    exact ⟨complaints (tokensOf text), (judge (tokensOf text) scope).1.diagnostics,
      diagnostics_runLine text scope, pointAtInvalid_complaints text,
      Verdict.length_diagnostics_le _, fun d hd => covers_of_mem_diagnostics hd⟩
  stop_le_length d hd := by
    rw [diagnostics_runLine] at hd
    rcases List.mem_append.mp hd with hd | hd
    · exact stop_le_of_mem_complaints hd
    · exact (covers_of_mem_diagnostics hd).stop_le_length

end Declaration

namespace Expression

/-! ## Expressions -/

/-- A check reports some of the tokens, in their order. -/
theorem undeclared_sublist_tokens (scope : Scope) (mode : Mode) (tokens : List Token) :
    (undeclared scope mode tokens).Sublist tokens := by
  have hall : (undeclared scope .all tokens).Sublist tokens := by
    rw [undeclared_all]
    exact List.filter_sublist
  cases mode with
  | first =>
    rw [undeclared_first]
    exact (List.take_sublist 1 _).trans hall
  | all => exact hall

/-- The diagnostics of a line that is checked as an expression: those of its characters, and behind
them one for each undeclared name, in the order of the names. All of them cover what they are
about. -/
structure Run.IsPlacedIn (r : Run) (text : String) : Prop where
  exists_groups : ∃ characters found, r.diagnostics = characters ++ found ∧
    PointAtInvalid text characters ∧
    (∀ d ∈ found, d.code = Diagnostic.Code.undeclaredVariable.name) ∧
    found.map (·.span.slice text) = r.verdict.undeclared ∧
    found.Pairwise fun d e => d.span.start < e.span.start
  stop_le_length : ∀ d ∈ r.diagnostics, d.span.stop ≤ text.length

theorem isPlacedIn_runLine (text : String) (scope : Scope) (mode : Mode) :
    (runLine (.ofText text) scope mode).IsPlacedIn text := by
  have hsublist := undeclared_sublist_tokens scope mode (tokensOf text)
  refine ⟨⟨complaints (tokensOf text), (undeclared scope mode (tokensOf text)).map report,
    diagnostics_runLine text scope mode, pointAtInvalid_complaints text, ?_, ?_, ?_⟩,
    fun d hd => ?_⟩
  · intro d hd
    obtain ⟨t, -, rfl⟩ := List.mem_map.mp hd
    rfl
  · rw [List.map_map]
    refine List.map_congr_left fun t ht => ?_
    exact slice_of_mem_tokensOf (hsublist.subset ht)
  · rw [List.pairwise_map]
    exact (pairwise_start_tokensOf text).sublist hsublist
  · rw [diagnostics_runLine] at hd
    rcases List.mem_append.mp hd with hd | hd
    · exact stop_le_of_mem_complaints hd
    · obtain ⟨t, ht, rfl⟩ := List.mem_map.mp hd
      exact stop_le_of_mem_tokensOf (hsublist.subset ht)

end Expression

/-- **Diagnostics cover their subject.** Whatever the line, the scope and the mode are, the
diagnostics of the line lie in it. The first of them cover its invalid tokens, one after the other
and each a single character. Behind these, a declaration has at most one more, which covers the
taken name, the wrong value, or, of a malformed line, all but the blanks that come first; and an
expression has one more for each undeclared name, one after the other, which covers the name. -/
theorem diagnostics_cover_their_subject (text : String) (scope : Scope) (mode : Expression.Mode) :
    (∃ r after, Declaration.run text scope = .ok (r, after) ∧ r.IsPlacedIn text) ∧
      ∃ r, Expression.run text scope mode = .ok r ∧ r.IsPlacedIn text :=
  ⟨⟨_, _, rfl, Declaration.isPlacedIn_runLine text scope⟩,
    ⟨_, rfl, Expression.isPlacedIn_runLine text scope mode⟩⟩

end Numeral
