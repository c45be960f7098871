import Numeral.Declaration
import Numeral.Proofs.Lexeme

/-!
# The base of a number

A scanner reads a number with the first pattern that takes its digits, and a declaration looks at
the digits once more, with those of the declared base. Both go by the same order of the bases: a
number has the least base of which it is a numeral, and every larger base accepts it.

- `Base.isNumeral_mono`: a numeral of a base is one of every larger base.
- `kindOfWord_eq_number_iff`: the base of a number is the least one.
- `accepts_iff_of_mem_tokensOf`: the bases that accept a number of a line.
- `value_rejected_iff_rank_lt`: a declaration is rejected for its value iff the number has a larger
  base than the declared one.
-/

namespace Numeral

/-! ## Words -/

section Words

variable {a b : Base} {w : List Char}

theorem Base.isNumeral_mono (h : a.rank ≤ b.rank) (hw : a.isNumeral w = true) :
    b.isNumeral w = true := by
  rw [isNumeral_iff] at hw ⊢
  exact ⟨hw.1, fun c hc => isDigit_mono h (hw.2 c hc)⟩

private theorem isHexadecimal_eq_isNumeral (w : List Char) :
    isHexadecimal w = Base.hex.isNumeral w := by
  rw [isHexadecimal, Base.isNumeral, funext isDigit_hex]

/-- The patterns of the numbers come in the order of their bases. -/
theorem kindOfWord_of_not_isName (hne : w ≠ []) (h : isName w = false) :
    kindOfWord w =
      if Base.bin.isNumeral w then .number .bin
      else if Base.oct.isNumeral w then .number .oct
      else .number .hex := by
  have hkeyword (b : Base) : ¬ IsKeyword b w := by
    intro hb
    rw [isName_of_isKeyword hb] at h
    cases h
  have hall (b : Base) : b.isNumeral w = w.all b.isDigit := by
    simp [Base.isNumeral, hne]
  rw [kindOfWord_of_not_isKeyword hkeyword, h, if_neg Bool.false_ne_true, hall, hall,
    funext isDigit_bin, funext isDigit_oct]

/-- **The least base.** A word is a number of a base iff it is no name and the base is the least one
of which it is a numeral. -/
theorem kindOfWord_eq_number_iff (ht : isTokenWord w = true) :
    kindOfWord w = .number a ↔
      isName w = false ∧ a.isNumeral w = true ∧ ∀ b : Base, b.isNumeral w = true →
        a.rank ≤ b.rank := by
  have hne := ne_nil_of_isTokenWord ht
  cases hname : isName w with
  | true =>
    have hnumber := isNumber_kindOfWord (w := w)
    rw [hname] at hnumber
    refine iff_of_false (fun hkind => ?_) (by simp)
    rw [hkind] at hnumber
    cases hnumber
  | false =>
    have hhex : Base.hex.isNumeral w = true := by
      rwa [isTokenWord, hname, Bool.false_or, isHexadecimal_eq_isNumeral] at ht
    have hmono : Base.bin.isNumeral w = true → Base.oct.isNumeral w = true :=
      Base.isNumeral_mono (by decide)
    have hforall (p : Base → Prop) : (∀ b, p b) ↔ p .bin ∧ p .oct ∧ p .hex := by
      refine ⟨fun h => ⟨h .bin, h .oct, h .hex⟩, fun h b => ?_⟩
      cases b
      · exact h.1
      · exact h.2.1
      · exact h.2.2
    rw [kindOfWord_of_not_isName hne hname, hforall]
    cases hbin : Base.bin.isNumeral w with
    | true => cases a <;> simp [hbin, hmono hbin, hhex, Base.rank]
    | false =>
      cases hoct : Base.oct.isNumeral w <;> cases a <;> simp [hbin, hoct, hhex, Base.rank]

/-- The bases that accept a number are those from its own on. -/
theorem isNumeral_iff_of_kindOfWord (ht : isTokenWord w = true) (h : kindOfWord w = .number a) :
    b.isNumeral w = true ↔ a.rank ≤ b.rank := by
  obtain ⟨-, hw, hleast⟩ := (kindOfWord_eq_number_iff ht).mp h
  exact ⟨hleast b, fun hrank => Base.isNumeral_mono hrank hw⟩

end Words

/-! ## Lines -/

section Lines

variable {text : String} {scope : Scope} {t : Token} {d : Declaration} {a : Base}

/-- The digits that a base accepts are those that the scanner goes by. -/
theorem accepts_iff_of_mem_tokensOf (h : t ∈ tokensOf text) (hkind : t.kind = .number a)
    (b : Base) : b.accepts t.text = true ↔ a.rank ≤ b.rank := by
  have hmem : (.number a, t.text.toList) ∈ lexemes text.toList := by
    rw [← lexemes_tokensOf, ← hkind]
    exact List.mem_map_of_mem h
  obtain ⟨ht, hw⟩ := isTokenWord_of_mem_lexemes hmem (.number a)
  exact isNumeral_iff_of_kindOfWord ht hw

theorem Declaration.exists_number_of_ofTokens? {tokens : List Token}
    (h : ofTokens? tokens = some d) : d.value ∈ tokens ∧ ∃ a, d.value.kind = .number a := by
  obtain ⟨k, semicolon, last, rest, rfl, -, -, hvalue, -⟩ := ofTokens?_eq_some_iff.mp h
  exact ⟨by simp, Kind.isNumber_iff.mp hvalue⟩

/-- With a new name, a declaration is accepted iff its base is not below that of the number. -/
theorem Declaration.judge_of_not_mem (h : ofTokens? (tokensOf text) = some d)
    (hmem : d.name.text ∉ scope) (hkind : d.value.kind = .number a) :
    (judge (tokensOf text) scope).1 =
      if a.rank ≤ d.base.rank then .accepted d else .invalidValue d := by
  have haccepts := accepts_iff_of_mem_tokensOf (exists_number_of_ofTokens? h).1 hkind d.base
  split
  · rename_i hrank
    rw [judge_of_accepts h hmem (haccepts.mpr hrank)]
  · rename_i hrank
    rw [judge_of_not_accepts h hmem (by rwa [Bool.eq_false_iff, ne_eq, haccepts])]

/-- **The base of a number.** A base accepts a number of a line iff the number's own base is not
above it. So a declaration with a new name is rejected for its value iff the base of the number is
above the declared one, and is accepted otherwise. -/
theorem value_rejected_iff_rank_lt (text : String) :
    (∀ t ∈ tokensOf text, ∀ a, t.kind = .number a →
      ∀ b : Base, b.accepts t.text = true ↔ a.rank ≤ b.rank) ∧
    ∀ (scope : Scope) (d : Declaration), Declaration.ofTokens? (tokensOf text) = some d →
      d.name.text ∉ scope → ∃ a, d.value.kind = .number a ∧
        ((Declaration.judge (tokensOf text) scope).1.diagnostics.map (·.code) =
            [Diagnostic.Code.invalidValue.name] ↔ d.base.rank < a.rank) ∧
        ((Declaration.judge (tokensOf text) scope).1.outcome = .accepted ↔
          a.rank ≤ d.base.rank) := by
  refine ⟨fun t ht a hkind b => accepts_iff_of_mem_tokensOf ht hkind b, fun scope d hd hmem => ?_⟩
  obtain ⟨a, hkind⟩ := (Declaration.exists_number_of_ofTokens? hd).2
  rw [Declaration.judge_of_not_mem hd hmem hkind]
  refine ⟨a, hkind, ?_⟩
  split
  · rename_i hrank
    exact ⟨iff_of_false (by simp [Declaration.Verdict.diagnostics]) (by omega),
      iff_of_true rfl hrank⟩
  · rename_i hrank
    exact ⟨iff_of_true rfl (by omega),
      iff_of_false (by simp [Declaration.Verdict.outcome]) hrank⟩

example : (Declaration.alone "bin x 17;").outcome = .rejectedNameOrValue ∧
    (Declaration.alone "hex x 17;").outcome = .accepted := by
  decide +kernel

end Lines

end Numeral
