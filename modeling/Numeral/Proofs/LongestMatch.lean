import Mathlib.Order.Bounds.Basic
import Numeral.Proofs.Scan

/-!
# The first match is a longest match

A form may be read as a pattern with choices: it takes its leading characters, then any number of
characters that it goes on with, and a word form takes a number of them that leads to a word
boundary. The scanner takes the longest choice of the first pattern that has one. Both selections
turn out to be none: a pattern of the table never has two choices at one place, and all patterns of
the table that have one there take the same characters.

- `Form.Takes`: what a form can take at the head of a text.
- `Form.length?_eq_some_iff`: the length that a form takes is the greatest that it can take.
- `Form.InWord.eq_takeWhile_of_takes`: a word form can take nothing but the whole word.
- `Pattern.takes_unique`: any two patterns of the table that can take something take the same.
- `first_match_is_longest`: what follows for the next token of a scanner.
-/

namespace Numeral

/-! ## The choices of a class -/

section Boundary

variable {p : Char → Bool} {before : Option Char} {cs w r : List Char} {n : Nat}

private theorem getLast?_cons_or (c : Char) (w : List Char) (before : Option Char) :
    (c :: w).getLast?.or before = w.getLast?.or (some c) := by
  rw [List.getLast?_cons]
  cases w.getLast? <;> rfl

/-- The characters that are taken are of the class, and a boundary is behind them. -/
private theorem exists_of_takeToBoundary (h : takeToBoundary p before cs = some n) :
    ∃ w r, cs = w ++ r ∧ w.length = n ∧ w.all p = true ∧
      isWordBoundary (w.getLast?.or before) r.head? = true := by
  induction cs generalizing before n with
  | nil =>
    rw [takeToBoundary, Option.ite_none_right_eq_some] at h
    obtain ⟨hboundary, h⟩ := h
    cases h
    exact ⟨[], [], rfl, rfl, rfl, hboundary⟩
  | cons c cs ih =>
    rw [takeToBoundary] at h
    split at h
    · rename_i m hmore
      cases h
      rw [Option.ite_none_right_eq_some] at hmore
      obtain ⟨w, r, rfl, rfl, hall, hboundary⟩ := ih hmore.2
      exact ⟨c :: w, r, rfl, rfl, by simp [hmore.1, hall], by rwa [getLast?_cons_or]⟩
    · rw [Option.ite_none_right_eq_some] at h
      obtain ⟨hboundary, h⟩ := h
      cases h
      exact ⟨[], c :: cs, rfl, rfl, rfl, hboundary⟩

/-- At least as many characters are taken as there are in front of any boundary that can be
reached. -/
private theorem exists_le_takeToBoundary (hall : w.all p = true)
    (hboundary : isWordBoundary (w.getLast?.or before) r.head? = true) :
    ∃ n, takeToBoundary p before (w ++ r) = some n ∧ w.length ≤ n := by
  induction w generalizing before with
  | nil =>
    cases r with
    | nil => exact ⟨0, by simpa [takeToBoundary] using hboundary, le_rfl⟩
    | cons c cs =>
      rw [List.nil_append, takeToBoundary]
      split
      · exact ⟨_, rfl, Nat.zero_le _⟩
      · exact ⟨0, by simpa using hboundary, le_rfl⟩
  | cons c w ih =>
    rw [List.all_cons, Bool.and_eq_true] at hall
    rw [getLast?_cons_or] at hboundary
    obtain ⟨n, hn, hle⟩ := ih hall.2 hboundary
    refine ⟨n + 1, ?_, Nat.succ_le_succ hle⟩
    rw [List.cons_append, takeToBoundary, if_pos hall.1, hn]

end Boundary

private theorem startsWith_append_iff {ps : List (Char → Bool)} {w : List Char} (r : List Char)
    (h : ps.length ≤ w.length) : startsWith ps (w ++ r) = startsWith ps w := by
  induction ps generalizing w with
  | nil => simp [startsWith]
  | cons p ps ih =>
    obtain ⟨c, w, rfl⟩ := List.exists_cons_of_length_pos (Nat.lt_of_lt_of_le (Nat.succ_pos _) h)
    rw [List.cons_append, startsWith, startsWith, ih (Nat.le_of_succ_le_succ h)]

/-- Each of the leading characters is of one of the classes. -/
private theorem exists_of_mem_take_of_startsWith {ps : List (Char → Bool)} {w : List Char}
    {c : Char} (h : startsWith ps w = true) (hc : c ∈ w.take ps.length) : ∃ p ∈ ps, p c = true := by
  induction ps generalizing w with
  | nil => cases hc
  | cons p ps ih =>
    cases w with
    | nil => cases h
    | cons d w =>
      rw [startsWith, Bool.and_eq_true] at h
      rw [List.length_cons, List.take_succ_cons, List.mem_cons] at hc
      rcases hc with rfl | hc
      · exact ⟨p, List.mem_cons_self, h.1⟩
      · obtain ⟨q, hq, hqc⟩ := ih h.2 hc
        exact ⟨q, List.mem_cons_of_mem _ hq, hqc⟩

/-! ## The choices of a form -/

namespace Form

variable {f : Form} {cs w : List Char} {n : Nat}

/-- The form can take `w` at the head of `cs`: the characters of `w` are of its classes, and if it
is a word form, then a word boundary is behind them. -/
def Takes (f : Form) (cs w : List Char) : Prop :=
  ∃ r, cs = w ++ r ∧ f.admits w = true ∧
    (f.isWordForm = true → isWordBoundary w.getLast? r.head? = true)

private theorem goesOnWith_of_not_isWordForm (h : f.isWordForm = false) (c : Char) :
    f.goesOnWith c = false := by
  cases f with
  | symbol s => rfl
  | _ => cases h

/-- The form can take the characters that it takes. -/
private theorem exists_takes_of_length? (h : f.length? cs = some n) :
    ∃ w, f.Takes cs w ∧ w.length = n := by
  unfold length? at h
  split at h
  · rename_i hstart
    have hlength : (cs.take f.leading.length).length = f.leading.length :=
      List.length_take_of_le (length_le_of_startsWith hstart)
    have hcs := List.take_append_drop f.leading.length cs
    rw [← hcs, startsWith_append_iff _ hlength.ge] at hstart
    split at h
    · obtain ⟨m, hm, rfl⟩ := Option.map_eq_some_iff.mp h
      obtain ⟨w, r, hdrop, rfl, hall, hboundary⟩ := exists_of_takeToBoundary hm
      refine ⟨cs.take f.leading.length ++ w, ⟨r, ?_, ?_, fun _ => ?_⟩, ?_⟩
      · rw [List.append_assoc, ← hdrop, hcs]
      · rw [admits, startsWith_append_iff _ hlength.ge, hstart, List.drop_left' hlength, hall]
        rfl
      · rwa [List.getLast?_append]
      · rw [List.length_append, hlength]
    · rename_i hword
      cases h
      refine ⟨_, ⟨_, hcs.symm, ?_, fun hword' => absurd hword' hword⟩, hlength⟩
      rw [admits, hstart, List.drop_of_length_le hlength.le]
      rfl
  · cases h

/-- The form takes at least as many characters as it can take. -/
private theorem Takes.exists_le_length? (h : f.Takes cs w) :
    ∃ n, f.length? cs = some n ∧ w.length ≤ n := by
  obtain ⟨r, rfl, hadmits, hboundary⟩ := h
  rw [admits, Bool.and_eq_true] at hadmits
  obtain ⟨hstart, hall⟩ := hadmits
  have hle := length_le_of_startsWith hstart
  unfold length?
  rw [startsWith_append_iff r hle, if_pos hstart]
  -- A symbol takes its one character; only a word form has a choice.
  cases hword : f.isWordForm with
  | true =>
    have hw := List.take_append_drop f.leading.length w
    have hboundary := hboundary hword
    rw [← hw, List.getLast?_append] at hboundary
    obtain ⟨n, hn, hlen⟩ := exists_le_takeToBoundary hall hboundary
    rw [List.length_drop] at hlen
    rw [if_pos rfl, List.take_append_of_le_length hle, List.drop_append_of_le_length hle, hn]
    exact ⟨_, rfl, Nat.sub_le_iff_le_add'.mp hlen⟩
  | false =>
    have hnone : w.drop f.leading.length = [] := by
      rw [List.eq_nil_iff_forall_not_mem]
      intro c hc
      have := List.all_eq_true.mp hall c hc
      rw [goesOnWith_of_not_isWordForm hword] at this
      cases this
    exact ⟨_, rfl, List.drop_eq_nil_iff.mp hnone⟩

/-- **Greatest choice.** The length that a form takes at the head of a text is the greatest length
that it can take there. -/
theorem length?_eq_some_iff :
    f.length? cs = some n ↔ IsGreatest {n | ∃ w, f.Takes cs w ∧ w.length = n} n := by
  have hgreatest {n : Nat} (h : f.length? cs = some n) :
      IsGreatest {n | ∃ w, f.Takes cs w ∧ w.length = n} n := by
    refine ⟨exists_takes_of_length? h, ?_⟩
    rintro _ ⟨w, hw, rfl⟩
    obtain ⟨m, hm, hle⟩ := hw.exists_le_length?
    cases h.symm.trans hm
    exact hle
  refine ⟨hgreatest, fun h => ?_⟩
  obtain ⟨w, hw, rfl⟩ := h.1
  obtain ⟨m, hm, -⟩ := hw.exists_le_length?
  rw [hm, (hgreatest hm).unique h]

theorem length?_eq_none_iff : f.length? cs = none ↔ ∀ w, ¬ f.Takes cs w := by
  rw [Option.eq_none_iff_forall_ne_some]
  constructor
  · intro h w hw
    obtain ⟨n, hn, -⟩ := hw.exists_le_length?
    exact h n hn
  · intro h n hn
    obtain ⟨w, hw, -⟩ := exists_takes_of_length? hn
    exact h w hw

theorem takes_symbol {s : Char} (h : (symbol s).Takes cs w) :
    w = cs.take 1 ∧ cs.head? = some s := by
  obtain ⟨r, rfl, hadmits, -⟩ := h
  have hw : w = [s] := by
    match w, hadmits with
    | [c], hadmits => simpa [admits, leading, startsWith] using hadmits
    | c :: d :: w, hadmits => simp [admits, goesOnWith, leading] at hadmits
  rw [hw]
  exact ⟨rfl, rfl⟩

namespace InWord

theorem isWord_of_admits (hf : f.InWord) (h : f.admits w = true) : ∀ c ∈ w, isWord c = true := by
  intro c hc
  rw [admits, Bool.and_eq_true] at h
  rw [← List.take_append_drop f.leading.length w, List.mem_append] at hc
  rcases hc with hc | hc
  · obtain ⟨p, hp, hpc⟩ := exists_of_mem_take_of_startsWith h.1 hc
    exact hf.isWord_of_leading p hp c hpc
  · exact hf.isWord_of_goesOnWith c (List.all_eq_true.mp h.2 c hc)

/-- **No choice.** A form of word characters can take nothing but the whole word at the head of a
text, and only if there is one. -/
theorem eq_takeWhile_of_takes (hf : f.InWord) (h : f.Takes cs w) :
    w = cs.takeWhile isWord ∧ cs.head?.any isWord = true := by
  obtain ⟨r, rfl, hadmits, hboundary⟩ := h
  have hw := hf.isWord_of_admits hadmits
  have hne : w ≠ [] := by
    rintro rfl
    cases hf.admits_nil.symm.trans hadmits
  -- The last character of `w` is one of a word, so that the one behind the boundary is none.
  have hr : r.takeWhile isWord = [] := by
    have hboundary := hboundary hf.isWordForm
    rw [List.getLast?_eq_some_getLast hne, isWordBoundary, Option.any_some,
      hw _ (List.getLast_mem hne)] at hboundary
    cases r with
    | nil => rfl
    | cons c r => simpa using hboundary
  constructor
  · rw [List.takeWhile_append_of_pos hw, hr, List.append_nil]
  · obtain ⟨c, w, rfl⟩ := List.exists_cons_of_ne_nil hne
    exact hw c List.mem_cons_self

end InWord

end Form

/-! ## The choices of the patterns -/

namespace Pattern

variable {patterns : List Pattern} {p q : Pattern} {cs w w' : List Char}

/-- A pattern of the table is a symbol that belongs to no word, or takes characters of words. -/
theorem form_of_mem_table (h : p ∈ table) :
    (∃ s, p.form = .symbol s ∧ isWord s = false) ∨ p.form.InWord := by
  rw [table_eq, List.mem_append] at h
  rcases h with h | h
  · obtain ⟨⟨s, kind⟩, he, rfl⟩ := List.mem_map.mp h
    have hsymbols : ∀ e ∈ symbolKinds, isWord e.1 = false := by decide
    exact .inl ⟨s, rfl, hsymbols _ he⟩
  · exact .inr (inWord_of_mem_words h)

/-- What a pattern of the table can take: the word at the head of the text or, where there is none,
the first character. -/
theorem eq_of_takes (hp : p ∈ table) (h : p.form.Takes cs w) :
    p.form.isWordForm = cs.head?.any isWord ∧
      w = if cs.head?.any isWord then cs.takeWhile isWord else cs.take 1 := by
  obtain ⟨s, hs, hnone⟩ | hword := form_of_mem_table hp
  · rw [hs] at h
    obtain ⟨rfl, hhead⟩ := Form.takes_symbol h
    rw [hs, hhead, Option.any_some, hnone]
    exact ⟨rfl, rfl⟩
  · obtain ⟨rfl, hhead⟩ := hword.eq_takeWhile_of_takes h
    rw [hword.isWordForm, hhead]
    exact ⟨rfl, rfl⟩

/-- **One text.** Any two patterns of the table that can take something at the same place take the
same characters. -/
theorem takes_unique (hp : p ∈ table) (hq : q ∈ table) (h : p.form.Takes cs w)
    (h' : q.form.Takes cs w') : w = w' :=
  (eq_of_takes hp h).2.trans (eq_of_takes hq h').2.symm

theorem first?_eq_none_iff :
    first? patterns cs = none ↔ ∀ p ∈ patterns, ∀ w, ¬ p.form.Takes cs w := by
  rw [first?, List.findSome?_eq_none_iff]
  exact forall₂_congr fun p _ => Option.map_eq_none_iff.trans Form.length?_eq_none_iff

/-- The first of the patterns that can take something takes it. -/
theorem exists_of_first? {kind : Kind} {n : Nat} (h : first? patterns cs = some (kind, n)) :
    ∃ before p after w, patterns = before ++ p :: after ∧ p.kind = kind ∧ p.form.Takes cs w ∧
      w.length = n ∧ ∀ q ∈ before, ∀ w, ¬ q.form.Takes cs w := by
  obtain ⟨before, p, after, rfl, hp, hnone⟩ := List.findSome?_eq_some_iff.mp h
  obtain ⟨n, hlength, he⟩ := Option.map_eq_some_iff.mp hp
  cases he
  obtain ⟨w, hw, rfl⟩ := (Form.length?_eq_some_iff.mp hlength).1
  refine ⟨before, p, after, w, rfl, rfl, hw, rfl, fun q hq => ?_⟩
  exact Form.length?_eq_none_iff.mp (Option.map_eq_none_iff.mp (hnone q hq))

/-- Patterns of the table take the same number of characters in any order. -/
theorem length_first?_of_perm (h : patterns.Perm table) :
    (first? patterns cs).map (·.2) = (first? table cs).map (·.2) := by
  cases hfirst : first? table cs with
  | none =>
    have hnone := first?_eq_none_iff.mp hfirst
    rw [first?_eq_none_iff.mpr fun p hp => hnone p (h.subset hp)]
  | some m =>
    cases hfirst' : first? patterns cs with
    | none =>
      have hnone := first?_eq_none_iff.mp hfirst'
      rw [first?_eq_none_iff.mpr fun p hp => hnone p (h.symm.subset hp)] at hfirst
      cases hfirst
    | some m' =>
      obtain ⟨l, p, l', w, he, -, hw, hn, -⟩ := exists_of_first? hfirst
      obtain ⟨k, q, k', w', he', -, hw', hn', -⟩ := exists_of_first? hfirst'
      have hp : p ∈ table := by simp [he]
      have hq : q ∈ table := h.subset (by simp [he'])
      rw [Option.map_some, Option.map_some, ← hn, ← hn', takes_unique hp hq hw hw']

end Pattern

/-- The next token is the text that the first of the patterns takes, if one takes some. -/
theorem Scanner.next_of_first? {s : Scanner} {kind : Kind} {n : Nat}
    (h : Pattern.first? Pattern.table s.skipBlanks.rest = some (kind, n)) :
    s.next.1 = .ofChars kind s.skipBlanks.offset (s.skipBlanks.rest.take n) := by
  cases hrest : s.skipBlanks.rest with
  | nil =>
    rw [hrest] at h
    cases h
  | cons c cs =>
    rw [hrest] at h
    simp [next, step, accept, hrest, h]

/-- **The first match is a longest match.** Whatever a scanner has in front of it behind the blanks:
a word form can take nothing there but the word up to its end, a symbol and a word form never both
take something, and any two patterns that can take something take the same characters. So the first
pattern that can take something, which makes the next token, takes as many as any pattern can take,
and in any other order of the patterns the token is as long. -/
theorem first_match_is_longest (s : Scanner) :
    let cs := s.skipBlanks.rest
    (∀ p ∈ Pattern.table, p.form.isWordForm = true →
      ∀ w, p.form.Takes cs w → w = cs.takeWhile isWord) ∧
    (∀ p ∈ Pattern.table, ∀ q ∈ Pattern.table, p.form.isWordForm = false →
      q.form.isWordForm = true → ∀ w w', p.form.Takes cs w → ¬ q.form.Takes cs w') ∧
    (∀ p ∈ Pattern.table, ∀ q ∈ Pattern.table,
      ∀ w w', p.form.Takes cs w → q.form.Takes cs w' → w = w') ∧
    (∀ kind n, Pattern.first? Pattern.table cs = some (kind, n) →
      s.next.1 = .ofChars kind s.skipBlanks.offset (cs.take n) ∧
      (∃ before p after, Pattern.table = before ++ p :: after ∧ p.kind = kind ∧
        p.form.Takes cs (cs.take n) ∧ ∀ q ∈ before, ∀ w, ¬ q.form.Takes cs w) ∧
      IsGreatest {n | ∃ p ∈ Pattern.table, ∃ w, p.form.Takes cs w ∧ w.length = n} n) ∧
    (Pattern.first? Pattern.table cs = none →
      ∀ p ∈ Pattern.table, ∀ w, ¬ p.form.Takes cs w) ∧
    ∀ patterns : List Pattern, patterns.Perm Pattern.table →
      (Pattern.first? patterns cs).map (·.2) = (Pattern.first? Pattern.table cs).map (·.2) := by
  intro cs
  refine ⟨fun p hp hword w hw => ?_, fun p hp q hq hsymbol hword w w' hw hw' => ?_,
    fun p hp q hq w w' => Pattern.takes_unique hp hq, fun kind n hfirst => ?_,
    Pattern.first?_eq_none_iff.mp, fun patterns => Pattern.length_first?_of_perm⟩
  · obtain ⟨hhead, he⟩ := Pattern.eq_of_takes hp hw
    rwa [← hhead, if_pos hword] at he
  · have hhead := (Pattern.eq_of_takes hp hw).1.trans (Pattern.eq_of_takes hq hw').1.symm
    cases hsymbol.symm.trans (hhead.trans hword)
  · obtain ⟨before, p, after, w, htable, hkind, hw, rfl, hnone⟩ := Pattern.exists_of_first? hfirst
    have hp : p ∈ Pattern.table := by simp [htable]
    have htake : cs.take w.length = w := by
      obtain ⟨r, he, -⟩ := hw
      rw [he, List.take_left]
    refine ⟨Scanner.next_of_first? hfirst, ⟨before, p, after, htable, hkind, ?_, hnone⟩,
      ⟨p, hp, w, hw, rfl⟩, ?_⟩
    · rwa [htake]
    · rintro _ ⟨q, hq, w', hw', rfl⟩
      rw [Pattern.takes_unique hq hp hw' hw]

end Numeral
