import Mathlib.Algebra.Order.Group.Nat
import Mathlib.Tactic.SplitIfs
import Numeral.Proofs.LineEnds
import Numeral.Text.Quoted

/-!
# Reading quoted text

A quoted text stands on one line, and it can be read back: the quote in use is its first character,
and each escape says by its own characters where it ends and what it stands for.

- `hexValue_hexadecimal`: a number is read back from its hexadecimal digits.
- `unescape_escape`: a character is read back from its written form, whatever comes behind it.
- `quote_injective`: no two texts are quoted alike.
- `isOneLine_quote`, `isOneLine_repr`: neither a quoted text nor a number holds a line end of
  any kind.
-/

namespace Numeral

/-! ## Hexadecimal digits -/

/-- The value of a hexadecimal digit, whose letters are small. -/
def hexDigitValue (c : Char) : Nat :=
  if c.isDigit then c.toNat - 0x30 else c.toNat - 0x61 + 10

/-- The number that hexadecimal digits write. -/
def hexValue (cs : List Char) : Nat :=
  cs.foldl (fun n c => 16 * n + hexDigitValue c) 0

private theorem hexDigitValue_digitChar {d : Nat} (h : d < 16) : hexDigitValue d.digitChar = d := by
  have hall : ∀ d < 16, hexDigitValue (Nat.digitChar d) = d := by decide
  exact hall d h

private theorem hexValue_toDigits (n : Nat) : hexValue (Nat.toDigits 16 n) = n := by
  induction n using Nat.strongRecOn with
  | _ n ih =>
    rw [Nat.toDigits_eq_if (by decide)]
    split
    · next h => simp [hexValue, hexDigitValue_digitChar h]
    · next h =>
      have hfront := ih (n / 16) (by omega)
      rw [hexValue] at hfront ⊢
      rw [List.foldl_append, hfront, List.foldl_cons, List.foldl_nil,
        hexDigitValue_digitChar (Nat.mod_lt n (by decide)), Nat.div_add_mod]

theorem hexValue_hexadecimal (width n : Nat) : hexValue (hexadecimal width n) = n := by
  have hzeros (k : Nat) :
      (List.replicate k '0').foldl (fun n c => 16 * n + hexDigitValue c) 0 = 0 := by
    induction k with
    | zero => rfl
    | succ k ih => exact ih
  rw [hexadecimal, hexValue, List.foldl_append, hzeros]
  exact hexValue_toDigits n

private theorem length_hexadecimal {width n : Nat} (hwidth : 0 < width) (hn : n < 16 ^ width) :
    (hexadecimal width n).length = width := by
  have hle := (Nat.length_toDigits_le_iff (by decide) hwidth).mpr hn
  simp only [hexadecimal, List.length_append, List.length_replicate]
  omega

/-! ## Escapes -/

/-- The character of the code point that the next `width` digits write, and what comes behind
them. -/
def readCodePoint (width : Nat) (cs : List Char) : Char × List Char :=
  (Char.ofNat (hexValue (cs.take width)), cs.drop width)

/-- The first character of a text that is written in escapes, and what comes behind it. -/
def unescape : List Char → Option (Char × List Char)
  | [] => none
  | '\\' :: 'n' :: rest => some ('\n', rest)
  | '\\' :: 'r' :: rest => some ('\r', rest)
  | '\\' :: 't' :: rest => some ('\t', rest)
  | '\\' :: 'x' :: rest => some (readCodePoint 2 rest)
  | '\\' :: 'u' :: rest => some (readCodePoint 4 rest)
  | '\\' :: 'U' :: rest => some (readCodePoint 8 rest)
  | '\\' :: c :: rest => some (c, rest)
  | c :: rest => some (c, rest)

theorem readCodePoint_hexadecimal {width : Nat} {c : Char} (hwidth : 0 < width)
    (hc : c.toNat < 16 ^ width) (rest : List Char) :
    readCodePoint width (hexadecimal width c.toNat ++ rest) = (c, rest) := by
  have hlength := length_hexadecimal hwidth hc
  rw [readCodePoint, List.take_left' hlength, List.drop_left' hlength, hexValue_hexadecimal,
    Char.ofNat_toNat]

theorem unescape_codePointEscape (c : Char) (rest : List Char) :
    unescape (codePointEscape c ++ rest) = some (c, rest) := by
  have hlt : c.toNat < 0x110000 := by
    have hvalid : c.toNat < 0xd800 ∨ 0xdfff < c.toNat ∧ c.toNat < 0x110000 := c.valid
    omega
  rw [codePointEscape]
  split_ifs with hbyte hshort
  · exact congrArg some (readCodePoint_hexadecimal (by decide) hbyte rest)
  · exact congrArg some (readCodePoint_hexadecimal (by decide) hshort rest)
  · exact congrArg some (readCodePoint_hexadecimal (by decide) (by omega) rest)

private theorem unescape_of_ne {c : Char} (h : c ≠ '\\') (rest : List Char) :
    unescape (c :: rest) = some (c, rest) := by
  unfold unescape
  split <;> simp_all

/-- A character is read back from its written form, whatever comes behind it. -/
theorem unescape_escape {mark : Char} (hmark : mark = '\'' ∨ mark = '"') (c : Char)
    (rest : List Char) : unescape (escape mark c ++ rest) = some (c, rest) := by
  rw [escape]
  split_ifs with hown hfeed hreturn htab hprintable
  · -- None of the letters of the other escapes is a quote or a backslash.
    rcases hown with rfl | rfl
    · rcases hmark with rfl | rfl <;> rfl
    · rfl
  · rw [hfeed]
    rfl
  · rw [hreturn]
    rfl
  · rw [htab]
    rfl
  · exact unescape_of_ne (fun hc => hown (.inr hc)) rest
  · exact unescape_codePointEscape c rest

theorem flatMap_escape_injective {mark : Char} (hmark : mark = '\'' ∨ mark = '"')
    {a b : List Char} (h : a.flatMap (escape mark) = b.flatMap (escape mark)) : a = b := by
  -- Each side starts with the escape of its first character, which is read back alone.
  induction a generalizing b with
  | nil =>
    cases b with
    | nil => rfl
    | cons d b =>
      have hread := unescape_escape hmark d (b.flatMap (escape mark))
      rw [← List.flatMap_cons, ← h] at hread
      cases hread
  | cons c a ih =>
    have hread := unescape_escape hmark c (a.flatMap (escape mark))
    rw [← List.flatMap_cons, h] at hread
    cases b with
    | nil => cases hread
    | cons d b =>
      rw [List.flatMap_cons, unescape_escape hmark] at hread
      obtain ⟨rfl, hrest⟩ := Prod.mk.inj (Option.some.inj hread)
      rw [ih hrest.symm]

theorem quoteMark_cases (text : List Char) : quoteMark text = '\'' ∨ quoteMark text = '"' := by
  rw [quoteMark]
  split
  · exact .inr rfl
  · exact .inl rfl

/-- **No two texts are quoted alike.** -/
theorem quote_injective {a b : String} (h : quote a = quote b) : a = b := by
  have hchars := String.ofList_injective h
  obtain ⟨hmark, hbody⟩ := List.cons.inj hchars
  rw [hmark] at hbody
  exact String.toList_inj.mp
    (flatMap_escape_injective (quoteMark_cases b.toList) (List.append_cancel_right hbody))

/-! ## One line -/

theorem not_isPrintable_of_isWideLineEnd {c : Char} (h : isWideLineEnd c = true) :
    isPrintable c = false := by
  simp only [isWideLineEnd, isPlainLineEnd, isWideOnlyLineEnd, Bool.or_eq_true,
    decide_eq_true_eq] at h
  rcases h with (rfl | rfl) | (((((((rfl | rfl) | rfl) | rfl) | rfl) | rfl) | rfl) | rfl)
  all_goals decide +kernel

private theorem exists_of_mem_toDigits {base n : Nat} (hbase : 1 < base) {c : Char}
    (h : c ∈ Nat.toDigits base n) : ∃ d < base, c = Nat.digitChar d := by
  induction n using Nat.strongRecOn with
  | _ n ih =>
    rw [Nat.toDigits_eq_if hbase] at h
    split at h
    · next hn => exact ⟨n, hn, List.mem_singleton.mp h⟩
    · next hn =>
      rcases List.mem_append.mp h with h | h
      · exact ih (n / base) (Nat.div_lt_self (by omega) hbase) h
      · exact ⟨n % base, Nat.mod_lt n (by omega), List.mem_singleton.mp h⟩

private theorem not_lineEnd_of_mem_toDigits {base n : Nat} (hlow : 1 < base) (hhigh : base ≤ 16)
    {c : Char} (h : c ∈ Nat.toDigits base n) : isWideLineEnd c = false := by
  have hdigits : ∀ d < 16, isWideLineEnd (Nat.digitChar d) = false := by decide
  obtain ⟨d, hd, rfl⟩ := exists_of_mem_toDigits hlow h
  exact hdigits d (by omega)

private theorem not_lineEnd_of_mem_hexadecimal {width n : Nat} {c : Char}
    (h : c ∈ hexadecimal width n) : isWideLineEnd c = false := by
  rcases List.mem_append.mp h with h | h
  · rw [List.eq_of_mem_replicate h]
    rfl
  · exact not_lineEnd_of_mem_toDigits (by decide) (by decide) h

private theorem not_lineEnd_of_mem_codePointEscape {c d : Char} (h : d ∈ codePointEscape c) :
    isWideLineEnd d = false := by
  rw [codePointEscape] at h
  split_ifs at h
  all_goals
    simp only [List.mem_cons] at h
    rcases h with rfl | rfl | h
    exacts [rfl, rfl, not_lineEnd_of_mem_hexadecimal h]

private theorem not_lineEnd_of_mem_pair {a b d : Char} (ha : isWideLineEnd a = false)
    (hb : isWideLineEnd b = false) (h : d ∈ [a, b]) : isWideLineEnd d = false := by
  rcases List.mem_pair.mp h with rfl | rfl
  exacts [ha, hb]

private theorem not_lineEnd_of_mem_escape {mark c d : Char} (hmark : isWideLineEnd mark = false)
    (h : d ∈ escape mark c) : isWideLineEnd d = false := by
  rw [escape] at h
  split_ifs at h with hown hfeed hreturn htab hprintable
  · have hc : isWideLineEnd c = false := by
      rcases hown with rfl | rfl
      exacts [hmark, rfl]
    exact not_lineEnd_of_mem_pair rfl hc h
  · exact not_lineEnd_of_mem_pair rfl rfl h
  · exact not_lineEnd_of_mem_pair rfl rfl h
  · exact not_lineEnd_of_mem_pair rfl rfl h
  · rw [List.mem_singleton.mp h]
    by_contra hend
    simp [not_isPrintable_of_isWideLineEnd (Bool.not_eq_false _ ▸ hend)] at hprintable
  · exact not_lineEnd_of_mem_codePointEscape h

/-- A quoted text holds no line end of any kind, whatever the text holds. -/
@[simp]
theorem isOneLine_quote (text : String) : IsOneLine (quote text) := by
  have hmark : isWideLineEnd (quoteMark text.toList) = false := by
    rcases quoteMark_cases text.toList with h | h <;> rw [h] <;> rfl
  intro c hc
  rw [quote, String.toList_ofList, List.cons_append] at hc
  rcases List.mem_cons.mp hc with rfl | hc
  · exact hmark
  · rcases List.mem_append.mp hc with hc | hc
    · obtain ⟨d, -, hd⟩ := List.mem_flatMap.mp hc
      exact not_lineEnd_of_mem_escape hmark hd
    · rw [List.mem_singleton.mp hc]
      exact hmark

@[simp]
theorem isOneLine_repr (n : Nat) : IsOneLine n.repr := by
  intro c hc
  rw [Nat.repr_eq_ofList_toDigits, String.toList_ofList] at hc
  exact not_lineEnd_of_mem_toDigits (by decide) (by decide) hc

end Numeral
