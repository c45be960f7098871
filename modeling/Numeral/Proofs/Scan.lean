import Numeral.Proofs.Munch
import Numeral.Token.Scanner

/-!
# Draining a scanner

Every token but the end of the line takes at least one character, so that the number of tokens which
`Scanner.drain` allows for is never the reason why it stops.

- `drain_eq`: draining takes the next token and, unless it is the end, drains on behind it.
- `drain_eq_map`: two scanners whose steps give the same tokens up to a map.
- `step_tokenWord`, `step_word_of_not_tokenWord`, `step_of_not_word`: the token at the offset
  reached.
- `drain_blank`, `drain_tokenWord`, `drain_word_of_not_tokenWord`, `drain_symbol`,
  `drain_of_not_symbol`: draining, by what comes next.
-/

namespace Numeral

theorem kindOfWord_ne_endOfLine (w : List Char) : kindOfWord w ≠ .endOfLine := by
  unfold kindOfWord
  repeat' split
  all_goals simp

/-- A text that starts with a word character is a word and what is behind it. -/
theorem exists_word_append {c : Char} (cs : List Char) (hc : isWord c = true) :
    ∃ w r, c :: cs = w ++ r ∧ w ≠ [] ∧ (∀ d ∈ w, isWord d = true) ∧ StartsNoWord r := by
  refine ⟨(c :: cs).takeWhile isWord, (c :: cs).dropWhile isWord,
    List.takeWhile_append_dropWhile.symm, by simp [hc], fun d hd => List.mem_takeWhile_imp hd,
    startsNoWord_dropWhile _⟩

/-- No pattern takes nothing, and none makes the end of the line. -/
theorem Pattern.first?_eq_some {cs : List Char} {kind : Kind} {n : Nat}
    (h : first? table cs = some (kind, n)) : kind ≠ .endOfLine ∧ 0 < n := by
  cases cs with
  | nil => cases h
  | cons c cs =>
    cases hc : isWord c with
    | true =>
      obtain ⟨w, r, he, hne, hw, hr⟩ := exists_word_append cs hc
      rw [he, first?_word hne hw hr] at h
      split at h
      · cases h
        exact ⟨kindOfWord_ne_endOfLine w, List.length_pos_of_ne_nil hne⟩
      · cases h
    | false =>
      rw [first?_of_not_word hc, Option.map_eq_some_iff] at h
      obtain ⟨k, hk, he⟩ := h
      cases he
      exact ⟨ne_endOfLine_of_symbolKind? hk, Nat.one_pos⟩

namespace Scanner

variable {s : Scanner} {c : Char} {cs w r : List Char}

@[simp]
theorem rest_advance (n : Nat) (s : Scanner) : (s.advance n).rest = s.rest.drop n :=
  rfl

private theorem advance_advance (m n : Nat) (s : Scanner) :
    (s.advance m).advance n = s.advance (m + n) := by
  simp [advance, Nat.add_assoc]

@[simp]
theorem advance_zero (s : Scanner) : s.advance 0 = s := by
  simp [advance]

theorem skipBlanks_of_not_blank (h : s.rest = c :: cs) (hc : isBlank c = false) :
    s.skipBlanks = s := by
  simp [skipBlanks, h, hc]

theorem skipBlanks_blank (h : s.rest = c :: cs) (hc : isBlank c = true) :
    s.skipBlanks = (s.advance 1).skipBlanks := by
  simp [skipBlanks, h, hc, advance_advance, Nat.add_comm]

/-! ## One step -/

theorem step_tokenWord (h : s.rest = w ++ r) (hne : w ≠ []) (hw : ∀ c ∈ w, isWord c = true)
    (hr : StartsNoWord r) (ht : isTokenWord w = true) :
    s.step = s.accept (kindOfWord w) w.length := by
  obtain ⟨c, w, rfl⟩ := List.exists_cons_of_ne_nil hne
  have hfirst := Pattern.first?_word hne hw hr
  rw [if_pos ht] at hfirst
  rw [List.cons_append] at h hfirst
  simp [step, h, hfirst]

theorem step_word_of_not_tokenWord (h : s.rest = c :: w ++ r)
    (hw : ∀ d ∈ c :: w, isWord d = true) (hr : StartsNoWord r) (ht : isTokenWord (c :: w) = false) :
    s.step = s.reject c := by
  have hfirst := Pattern.first?_word (List.cons_ne_nil c w) hw hr
  rw [if_neg (by simp [ht])] at hfirst
  rw [List.cons_append] at h hfirst
  simp [step, h, hfirst]

theorem step_of_not_word (h : s.rest = c :: cs) (hc : isWord c = false) :
    s.step =
      match symbolKind? c with
      | some kind => s.accept kind 1
      | none => s.reject c := by
  have hfirst := Pattern.first?_of_not_word hc cs
  cases hk : symbolKind? c <;> simp [step, h, hfirst, hk]

/-- A token that does not end the line takes at least one character. -/
theorem length_rest_step_lt (h : s.step.1.kind ≠ .endOfLine) :
    s.step.2.rest.length < s.rest.length := by
  unfold step at h ⊢
  split
  · rename_i hnil
    simp [hnil, Token.endAt] at h
  · rename_i c cs hcons
    split
    · rename_i kind n hfirst
      obtain ⟨-, hn⟩ := Pattern.first?_eq_some hfirst
      simp only [accept, rest_advance, List.length_drop, hcons, List.length_cons]
      omega
    · simp [reject, advance, hcons]

theorem length_rest_next_lt (h : s.next.1.kind ≠ .endOfLine) :
    s.next.2.rest.length < s.rest.length := by
  have hlt := length_rest_step_lt h
  have hle : s.skipBlanks.rest.length ≤ s.rest.length := by
    simp [skipBlanks]
  exact Nat.lt_of_lt_of_le hlt hle

/-! ## Draining -/

/-- Past the number of characters left, the bound on the number of tokens does not matter. -/
private theorem take_eq_take {m n : Nat} (hm : s.rest.length < m) (hn : s.rest.length < n) :
    s.take m = s.take n := by
  induction m generalizing n s with
  | zero => omega
  | succ m ih =>
    cases n with
    | zero => omega
    | succ n =>
      by_cases hend : s.next.1.kind = .endOfLine
      · simp [take, hend]
      · have hlt := length_rest_next_lt hend
        simp [take, hend, ih (s := s.next.2) (n := n) (by omega) (by omega)]

/-- **Draining.** The next token, and behind it all others, unless it ends the line. -/
theorem drain_eq (s : Scanner) :
    s.drain =
      if s.next.1.kind = .endOfLine then ([s.next.1], s.next.2)
      else (s.next.1 :: s.next.2.drain.1, s.next.2.drain.2) := by
  by_cases hend : s.next.1.kind = .endOfLine
  · simp [drain, take, hend]
  · have hlt := length_rest_next_lt hend
    have htake : s.next.2.take s.rest.length = s.next.2.drain :=
      take_eq_take hlt (Nat.lt_succ_self _)
    rw [if_neg hend, ← htake]
    simp [drain, take, hend]

/-- **Two scanners.** Where the next tokens of related scanners are the same up to `f`, and the
scanners behind them are related, all tokens are the same up to `f`. -/
theorem drain_eq_map {R : Scanner → Scanner → Prop} {f : Token → Token} {s' : Scanner}
    (hkind : ∀ t, (f t).kind = t.kind)
    (hnext : ∀ s s', R s s' → s'.next.1 = f s.next.1 ∧ R s.next.2 s'.next.2)
    (hlength : s'.rest.length = s.rest.length) (h : R s s') :
    s'.drain.1 = s.drain.1.map f := by
  have htake (n : Nat) : ∀ s s', R s s' → (s'.take n).1 = (s.take n).1.map f := by
    induction n with
    | zero => exact fun _ _ _ => rfl
    | succ n ih =>
      intro s s' h
      obtain ⟨htoken, hbehind⟩ := hnext s s' h
      by_cases hend : s.next.1.kind = .endOfLine
      · simp [take, htoken, hkind, hend]
      · simp [take, htoken, hkind, hend, ih _ _ hbehind]
  rw [drain, drain, hlength]
  exact htake _ s s' h

theorem drain_of_rest_eq_nil (h : s.rest = []) : s.drain = ([.endAt s.offset], s) := by
  have hnext : s.next = (.endAt s.offset, s) := by
    simp [next, skipBlanks, step, h]
  rw [drain_eq, hnext]
  rfl

theorem drain_blank (h : s.rest = c :: cs) (hc : isBlank c = true) :
    s.drain = (s.advance 1).drain := by
  have hnext : s.next = (s.advance 1).next := by
    rw [next, skipBlanks_blank h hc, ← next]
  rw [drain_eq s, drain_eq (s.advance 1), hnext]

theorem drain_of_step {t : Token} {s' : Scanner} (h : s.rest = c :: cs) (hc : isBlank c = false)
    (hstep : s.step = (t, s')) (ht : t.kind ≠ .endOfLine) :
    s.drain = (t :: s'.drain.1, s'.drain.2) := by
  have hnext : s.next = (t, s') := by
    rw [next, skipBlanks_of_not_blank h hc, hstep]
  rw [drain_eq, hnext, if_neg ht]

theorem drain_tokenWord (h : s.rest = w ++ r) (hne : w ≠ []) (hw : ∀ c ∈ w, isWord c = true)
    (hr : StartsNoWord r) (ht : isTokenWord w = true) :
    s.drain = (.ofChars (kindOfWord w) s.offset w :: (s.advance w.length).drain.1,
      (s.advance w.length).drain.2) := by
  have hstep := step_tokenWord h hne hw hr ht
  obtain ⟨c, w, rfl⟩ := List.exists_cons_of_ne_nil hne
  rw [accept, h, List.take_left' rfl] at hstep
  exact drain_of_step h (isBlank_eq_false_of_isWord (hw c (by simp))) hstep
    (kindOfWord_ne_endOfLine _)

/-- A word that is no token loses its first character as an invalid one. -/
theorem drain_word_of_not_tokenWord (h : s.rest = c :: w ++ r)
    (hw : ∀ d ∈ c :: w, isWord d = true) (hr : StartsNoWord r) (ht : isTokenWord (c :: w) = false) :
    s.drain = (.ofChars .invalid s.offset [c] :: (s.reject c).2.drain.1, (s.reject c).2.drain.2) :=
  drain_of_step h (isBlank_eq_false_of_isWord (hw c (by simp)))
    (step_word_of_not_tokenWord h hw hr ht) (by simp [Token.ofChars])

theorem drain_symbol {kind : Kind} (h : s.rest = c :: cs) (hc : symbolKind? c = some kind) :
    s.drain = (.ofChars kind s.offset [c] :: (s.advance 1).drain.1, (s.advance 1).drain.2) := by
  have hword := isWord_eq_false_of_symbolKind? hc
  have hstep := step_of_not_word h hword
  rw [hc] at hstep
  rw [drain_of_step h (isBlank_eq_false_of_symbolKind? hc) hstep (ne_endOfLine_of_symbolKind? hc)]
  simp [h]

theorem drain_of_not_symbol (h : s.rest = c :: cs) (hb : isBlank c = false)
    (hw : isWord c = false) (hc : symbolKind? c = none) :
    s.drain =
      (.ofChars .invalid s.offset [c] :: (s.reject c).2.drain.1, (s.reject c).2.drain.2) := by
  have hstep := step_of_not_word h hw
  rw [hc] at hstep
  exact drain_of_step h hb hstep (by simp [Token.ofChars])

end Scanner

end Numeral
