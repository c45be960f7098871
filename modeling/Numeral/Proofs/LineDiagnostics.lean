import Numeral.Declaration
import Numeral.Expression
import Numeral.Proofs.Scan

/-!
# The diagnostics of a line

A scanner reports its invalid characters and nothing else: one diagnostic for each invalid token, in
the order of the tokens and at the same span. The check of a line adds the codes of its own kind.

- `Scanner.diagnostics_drain`: what a scanner has reported behind its tokens.
- `Line.diagnostics_ofText`: the diagnostics of a line are those of its invalid tokens.
- `Declaration.diagnostics_runLine`, `Expression.diagnostics_runLine`: the check of the line adds
  its own behind them.
- `Declaration.code_mem_of_mem_diagnostics`, `Expression.code_mem_of_mem_diagnostics`: the codes
  that the result of a line can hold.
-/

namespace Numeral

/-- The report of an invalid token. -/
def Token.complaint (t : Token) : Diagnostic :=
  Diagnostic.Code.invalidCharacter.report t.span
    (some ("Unrecognized character " ++ quote t.text ++ "."))

/-- The reports of the invalid ones among `tokens`. -/
def complaints (tokens : List Token) : List Diagnostic :=
  (tokens.filter (·.kind = .invalid)).map Token.complaint

section Complaints

variable {t : Token} {ts : List Token}

@[simp]
theorem complaints_nil : complaints [] = [] :=
  rfl

theorem complaints_cons_of_invalid (h : t.kind = .invalid) :
    complaints (t :: ts) = t.complaint :: complaints ts := by
  simp [complaints, h]

theorem complaints_cons_of_ne (h : t.kind ≠ .invalid) : complaints (t :: ts) = complaints ts := by
  simp [complaints, h]

theorem complaints_cons (t : Token) (ts : List Token) :
    complaints (t :: ts) = complaints [t] ++ complaints ts := by
  rw [complaints, complaints, complaints, ← List.singleton_append, List.filter_append,
    List.map_append]

theorem code_of_mem_complaints {d : Diagnostic} (h : d ∈ complaints ts) :
    d.code = Diagnostic.Code.invalidCharacter.name := by
  obtain ⟨t, -, rfl⟩ := List.mem_map.mp h
  rfl

end Complaints

/-- No pattern makes an invalid token. -/
theorem Pattern.ne_invalid_of_first? {cs : List Char} {kind : Kind} {n : Nat}
    (h : first? table cs = some (kind, n)) : kind ≠ .invalid := by
  have htable : ∀ p ∈ table, p.kind ≠ .invalid := by decide
  obtain ⟨p, hp, h⟩ := List.exists_of_findSome?_eq_some h
  obtain ⟨_, -, h⟩ := Option.map_eq_some_iff.mp h
  cases h
  exact htable p hp

namespace Scanner

/-- A step reports the token that it gives, if that is invalid. -/
theorem diagnostics_step (s : Scanner) :
    s.step.2.diagnostics = s.diagnostics ++ complaints [s.step.1] := by
  unfold step
  split
  · rw [complaints_cons_of_ne (by simp [Token.endAt]), complaints_nil, List.append_nil]
  · rename_i c _ _
    split
    · rename_i kind n hfirst
      rw [complaints_cons_of_ne (Pattern.ne_invalid_of_first? hfirst), complaints_nil,
        List.append_nil]
      rfl
    · rw [complaints_cons_of_invalid rfl]
      rfl

theorem diagnostics_next (s : Scanner) :
    s.next.2.diagnostics = s.diagnostics ++ complaints [s.next.1] :=
  diagnostics_step s.skipBlanks

private theorem diagnostics_take (n : Nat) (s : Scanner) :
    (s.take n).2.diagnostics = s.diagnostics ++ complaints (s.take n).1 := by
  induction n generalizing s with
  | zero => simp [take]
  | succ n ih =>
    have hnext := s.diagnostics_next
    by_cases hend : s.next.1.kind = .endOfLine
    · simp [take, hend, hnext]
    · simp only [take, hend, if_false]
      rw [ih, hnext, complaints_cons s.next.1 (s.next.2.take n).1, List.append_assoc]

/-- **Reports of a scanner.** Behind its tokens a scanner has reported the invalid ones among them,
one after the other. -/
theorem diagnostics_drain (s : Scanner) :
    s.drain.2.diagnostics = s.diagnostics ++ complaints s.drain.1 :=
  diagnostics_take _ s

end Scanner

theorem Line.diagnostics_ofText (text : String) :
    (Line.ofText text).diagnostics = complaints (tokensOf text) :=
  Scanner.diagnostics_drain (Scanner.ofText text)

theorem Declaration.diagnostics_runLine (text : String) (scope : Scope) :
    (runLine (.ofText text) scope).1.diagnostics =
      complaints (tokensOf text) ++ (judge (tokensOf text) scope).1.diagnostics := by
  rw [← Line.diagnostics_ofText, runLine, Line.tokens_ofText]

theorem Expression.diagnostics_runLine (text : String) (scope : Scope) (mode : Mode) :
    (runLine (.ofText text) scope mode).diagnostics =
      complaints (tokensOf text) ++ (check (tokensOf text) scope mode).diagnostics := by
  rw [← Line.diagnostics_ofText, runLine, Line.tokens_ofText]

theorem Declaration.Verdict.code_mem_of_mem_diagnostics {v : Verdict} {d : Diagnostic}
    (h : d ∈ v.diagnostics) :
    d.code ∈ [Diagnostic.Code.grammarMismatch.name, Diagnostic.Code.duplicate.name,
      Diagnostic.Code.invalidValue.name] := by
  cases v with
  | accepted e => cases h
  | malformed span => simp [List.mem_singleton.mp h, Diagnostic.Code.report]
  | duplicate e => simp [List.mem_singleton.mp h, Diagnostic.Code.report]
  | invalidValue e => simp [List.mem_singleton.mp h, Diagnostic.Code.report]

theorem Declaration.code_mem_of_mem_diagnostics {text : String} {scope : Scope} {d : Diagnostic}
    (h : d ∈ (runLine (.ofText text) scope).1.diagnostics) :
    d.code ∈ [Diagnostic.Code.invalidCharacter.name, Diagnostic.Code.grammarMismatch.name,
      Diagnostic.Code.duplicate.name, Diagnostic.Code.invalidValue.name] := by
  rw [diagnostics_runLine] at h
  rcases List.mem_append.mp h with h | h
  · simp [code_of_mem_complaints h]
  · exact List.mem_cons_of_mem _ (Verdict.code_mem_of_mem_diagnostics h)

/-- A valid expression adds nothing to the diagnostics of its line. -/
theorem Expression.diagnostics_of_isValid {text : String} {scope : Scope} {mode : Mode}
    (h : (runLine (.ofText text) scope mode).isValid = true) :
    (runLine (.ofText text) scope mode).diagnostics = complaints (tokensOf text) := by
  have hfound : undeclared scope mode (tokensOf text) = [] :=
    undeclared_eq_nil_iff.mpr (isValid_runLine_iff.mp h)
  simp [runLine, check, hfound, Line.diagnostics_ofText]

theorem Expression.code_mem_of_mem_diagnostics {text : String} {scope : Scope} {mode : Mode}
    {d : Diagnostic} (h : d ∈ (runLine (.ofText text) scope mode).diagnostics) :
    d.code ∈ [Diagnostic.Code.invalidCharacter.name,
      Diagnostic.Code.undeclaredVariable.name] := by
  rw [diagnostics_runLine] at h
  rcases List.mem_append.mp h with h | h
  · simp [code_of_mem_complaints h]
  · obtain ⟨t, -, rfl⟩ := List.mem_map.mp h
    simp [report, Diagnostic.Code.report]

end Numeral
