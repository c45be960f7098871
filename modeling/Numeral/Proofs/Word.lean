import Mathlib
import Numeral.Token.Pattern

/-!
# Words and their shapes

A word character is no blank, and letters, digits and what counts as a letter where case is ignored
are word characters. The shapes that a word can have are said here letter by letter, without
patterns.

- `isBlank_eq_false_of_isWord`: no blank stands in a word.
- `isName`, `isHexadecimal`, `isLiteral`, `IsKeyword`: the shapes of a word.
- `isTokenWord`, `kindOfWord`: whether a word is a token as a whole, and of which kind.
- `kindOfWord_eq_keyword_iff`, `kindOfWord_eq_identifier_iff`, `isNumber_kindOfWord`: the kind by
  the shape.
-/

namespace Numeral

/-! ## Sets of characters -/

namespace CharSet

/-- No range of one set meets a range of the other. -/
def Apart (s t : CharSet) : Prop :=
  ∀ r ∈ s.ranges, ∀ q ∈ t.ranges, r.2 < q.1 ∨ q.2 < r.1

instance (s t : CharSet) : Decidable (s.Apart t) :=
  inferInstanceAs (Decidable (∀ r ∈ s.ranges, ∀ q ∈ t.ranges, _))

theorem Apart.contains_eq_false {s t : CharSet} (h : s.Apart t) {c : Char}
    (hc : t.contains c = true) : s.contains c = false := by
  rw [Bool.eq_false_iff]
  intro hs
  obtain ⟨r, hr, hlo, hhi⟩ := contains_iff.mp hs
  obtain ⟨q, hq, hlo', hhi'⟩ := contains_iff.mp hc
  have := h r hr q hq
  omega

theorem blank_apart_word : blank.Apart word := by
  decide +kernel

/-- The first ranges of the word characters are those of ASCII. -/
private theorem covers_word_of_lt : ∀ n < 128, covers word.ranges n =
    (decide (0x30 ≤ n ∧ n ≤ 0x39) || decide (0x41 ≤ n ∧ n ≤ 0x5A) || decide (n = 0x5F) ||
      decide (0x61 ≤ n ∧ n ≤ 0x7A)) := by
  decide +kernel

end CharSet

/-! ## Word characters -/

theorem isBlank_eq_false_of_isWord {c : Char} (h : isWord c = true) : isBlank c = false :=
  CharSet.blank_apart_word.contains_eq_false h

theorem isWord_eq_false_of_isBlank {c : Char} (h : isBlank c = true) : isWord c = false := by
  rw [Bool.eq_false_iff]
  intro hw
  rw [isBlank_eq_false_of_isWord hw] at h
  cases h

section Ascii

variable {c : Char}

theorem isDigit_iff_toNat : c.isDigit = true ↔ 0x30 ≤ c.toNat ∧ c.toNat ≤ 0x39 := by
  simp [Char.isDigit, UInt32.le_iff_toNat_le]

theorem isAlpha_iff_toNat :
    c.isAlpha = true ↔
      0x41 ≤ c.toNat ∧ c.toNat ≤ 0x5A ∨ 0x61 ≤ c.toNat ∧ c.toNat ≤ 0x7A := by
  simp [Char.isAlpha, Char.isUpper, Char.isLower, UInt32.le_iff_toNat_le]

private theorem isHexDigit_iff_toNat :
    c.isHexDigit = true ↔
      (0x30 ≤ c.toNat ∧ c.toNat ≤ 0x39 ∨ 0x61 ≤ c.toNat ∧ c.toNat ≤ 0x66) ∨
        0x41 ≤ c.toNat ∧ c.toNat ≤ 0x46 := by
  simp [Char.isHexDigit, Char.isDigit, UInt32.le_iff_toNat_le]

theorem isWord_of_isAlphanum (h : c.isAlphanum = true) : isWord c = true := by
  simp only [Char.isAlphanum, Bool.or_eq_true, isAlpha_iff_toNat, isDigit_iff_toNat] at h
  unfold isWord CharSet.contains
  rw [CharSet.covers_word_of_lt _ (by omega)]
  simp only [Bool.or_eq_true, decide_eq_true_eq]
  omega

theorem isAlphanum_of_isHexDigit (h : c.isHexDigit = true) : c.isAlphanum = true := by
  simp only [Char.isAlphanum, Bool.or_eq_true, isAlpha_iff_toNat, isDigit_iff_toNat,
    isHexDigit_iff_toNat] at h ⊢
  omega

end Ascii

/-- The digits of the largest base are those of hexadecimal numbers. -/
theorem isDigit_hex (c : Char) : Base.hex.isDigit c = c.isHexDigit := by
  rw [Bool.eq_iff_iff]
  simp only [Base.isDigit, Char.isHexDigit, Char.isDigit, Bool.or_eq_true, Bool.and_eq_true,
    decide_eq_true_eq, ge_iff_le, Char.le_def]

theorem isDigit_bin (c : Char) : Base.bin.isDigit c = decide (c = '0' ∨ c = '1') := by
  have htoNat : '0' ≤ c ∧ c ≤ '1' ↔ c.toNat = '0'.toNat ∨ c.toNat = '1'.toNat := by
    simp only [Char.le_def, UInt32.le_iff_toNat_le, Char.toNat_val, Char.reduceToNat]
    omega
  rw [Bool.eq_iff_iff, decide_eq_true_iff, ← Char.toNat_inj, ← Char.toNat_inj, ← htoNat]
  simp [Base.isDigit]

theorem isDigit_oct (c : Char) : Base.oct.isDigit c = decide ('0' ≤ c ∧ c ≤ '7') := by
  simp [Base.isDigit]

theorem isWord_of_isDigit {b : Base} {c : Char} (h : b.isDigit c = true) : isWord c = true := by
  have hhex : Base.hex.isDigit c = true :=
    Base.isDigit_mono (by cases b <;> decide) h
  rw [isDigit_hex] at hhex
  exact isWord_of_isAlphanum (isAlphanum_of_isHexDigit hhex)

/-! ## Names -/

/-- The letters beyond ASCII that stand for an ASCII letter where case is ignored. -/
def foldedLetters : List Char := ['\u0130', '\u0131', '\u017F', '\u212A']

/-- Whether a name may start with `c`: a letter of ASCII, the underscore, or a letter that stands
for one of ASCII. -/
def isNameStart (c : Char) : Bool :=
  c.isAlpha || c = '_' || c ∈ foldedLetters

/-- Whether a name may go on with `c`. -/
def isNameRest (c : Char) : Bool :=
  isNameStart c || c.isDigit

theorem isIdentifierStart_eq (c : Char) : isIdentifierStart c = isNameStart c := by
  by_cases hc : c ∈ foldedLetters
  · simp only [foldedLetters, List.mem_cons, List.not_mem_nil, or_false] at hc
    rcases hc with rfl | rfl | rfl | rfl <;> decide
  · have hfold : foldCase c = c.toLower := by
      simp only [foldedLetters, List.mem_cons, List.not_mem_nil, or_false, not_or] at hc
      simp [foldCase, hc]
    simp [isIdentifierStart, isNameStart, hfold, hc]

theorem isIdentifierRest_eq (c : Char) : isIdentifierRest c = isNameRest c := by
  rw [isIdentifierRest, isNameRest, isIdentifierStart_eq]

theorem isWord_of_isNameStart {c : Char} (h : isNameStart c = true) : isWord c = true := by
  simp only [isNameStart, Bool.or_eq_true, decide_eq_true_eq] at h
  rcases h with (h | rfl) | h
  · exact isWord_of_isAlphanum (by simp [Char.isAlphanum, h])
  · decide
  · simp only [foldedLetters, List.mem_cons, List.not_mem_nil, or_false] at h
    rcases h with rfl | rfl | rfl | rfl <;> decide +kernel

theorem isWord_of_isNameRest {c : Char} (h : isNameRest c = true) : isWord c = true := by
  simp only [isNameRest, Bool.or_eq_true] at h
  rcases h with h | h
  · exact isWord_of_isNameStart h
  · exact isWord_of_isAlphanum (by simp [Char.isAlphanum, h])

/-- No digit starts a name. -/
theorem isNameStart_eq_false_of_isDigit {c : Char} (h : c.isDigit = true) :
    isNameStart c = false := by
  rw [isDigit_iff_toNat] at h
  rw [Bool.eq_false_iff]
  intro hs
  simp only [isNameStart, foldedLetters, Bool.or_eq_true, isAlpha_iff_toNat, decide_eq_true_eq,
    List.mem_cons, List.not_mem_nil, or_false] at hs
  rcases hs with (hs | rfl) | rfl | rfl | rfl | rfl
  · omega
  all_goals simp at h

/-! ## Shapes of words -/

/-- Whether `w` is a name: a name letter, and behind it name letters and digits. -/
def isName : List Char → Bool
  | [] => false
  | c :: cs => isNameStart c && cs.all isNameRest

/-- Whether `w` consists of hexadecimal digits. -/
def isHexadecimal (w : List Char) : Bool :=
  !w.isEmpty && w.all Char.isHexDigit

/-- Whether `c` is the small ASCII letter `letter` where case is ignored. The dotted capital and the
dotless small `i` count as `i`. -/
def EqualUpToCase (c letter : Char) : Prop :=
  c.toLower = letter ∨ letter = 'i' ∧ (c = '\u0130' ∨ c = '\u0131')

instance (c letter : Char) : Decidable (EqualUpToCase c letter) :=
  inferInstanceAs (Decidable (_ ∨ _))

/-- The long `s` and the Kelvin sign stand for letters that are in no keyword. -/
theorem foldCase_eq_iff {c letter : Char} (hl : letter.isLower = true) (hs : letter ≠ 's')
    (hk : letter ≠ 'k') : foldCase c = letter ↔ EqualUpToCase c letter := by
  by_cases hc : c ∈ foldedLetters
  · simp only [foldedLetters, List.mem_cons, List.not_mem_nil, or_false] at hc
    rcases hc with rfl | rfl | rfl | rfl <;>
      simp [foldCase, EqualUpToCase, eq_comm, hs, hk] <;>
      rintro rfl <;> exact absurd hl (by decide)
  · simp only [foldedLetters, List.mem_cons, List.not_mem_nil, or_false, not_or] at hc
    simp [foldCase, EqualUpToCase, hc]

/-- Whether `w` is the keyword of `b` where case is ignored. -/
def IsKeyword (b : Base) (w : List Char) : Prop :=
  List.Forall₂ EqualUpToCase w b.keyword.toList

instance (b : Base) (w : List Char) : Decidable (IsKeyword b w) :=
  inferInstanceAs (Decidable (List.Forall₂ _ _ _))

theorem isLower_of_mem_keyword (b : Base) :
    ∀ letter ∈ b.keyword.toList, letter.isLower = true ∧ letter ≠ 's' ∧ letter ≠ 'k' := by
  cases b <;> simp [Base.keyword, Char.isLower]

/-- A spelling of small letters is met letter by letter iff folding the case gives it. -/
theorem forall₂_equalUpToCase_iff {spelling w : List Char}
    (hl : ∀ letter ∈ spelling, letter.isLower = true ∧ letter ≠ 's' ∧ letter ≠ 'k') :
    List.Forall₂ EqualUpToCase w spelling ↔ w.map foldCase = spelling := by
  induction spelling generalizing w with
  | nil => simp
  | cons letter spelling ih =>
    cases w with
    | nil => simp
    | cons c w =>
      obtain ⟨hlower, hs, hk⟩ := hl letter (by simp)
      rw [List.forall₂_cons, List.map_cons, List.cons_eq_cons, foldCase_eq_iff hlower hs hk,
        ih fun l h => hl l (by simp [h])]

theorem isKeyword_iff {b : Base} {w : List Char} :
    IsKeyword b w ↔ w.map foldCase = b.keyword.toList :=
  forall₂_equalUpToCase_iff (isLower_of_mem_keyword b)

theorem IsKeyword.unique {a b : Base} {w : List Char} (ha : IsKeyword a w) (hb : IsKeyword b w) :
    a = b := by
  rw [isKeyword_iff] at ha hb
  have h := ha.symm.trans hb
  cases a <;> cases b <;> simp_all [Base.keyword]

/-- A keyword has the shape of a name. -/
theorem isName_of_isKeyword {b : Base} {w : List Char} (h : IsKeyword b w) : isName w = true := by
  have hstart : ∀ c ∈ w, isNameStart c = true := by
    intro c hc
    have hmem : foldCase c ∈ b.keyword.toList := by
      rw [← isKeyword_iff.mp h]
      exact List.mem_map_of_mem hc
    rw [← isIdentifierStart_eq, isIdentifierStart, (isLower_of_mem_keyword b _ hmem).1]
    rfl
  cases w with
  | nil => cases b <;> cases h
  | cons c cs =>
    have hrest : ∀ d ∈ cs, isNameRest d = true := fun d hd => by
      simp [isNameRest, hstart d (by simp [hd])]
    simpa [isName, hstart c (by simp)] using hrest

/-- The kind of a word that is a name or consists of hexadecimal digits. -/
def kindOfWord (w : List Char) : Kind :=
  if IsKeyword .bin w then .keyword .bin
  else if IsKeyword .oct w then .keyword .oct
  else if IsKeyword .hex w then .keyword .hex
  else if isName w then .identifier
  else if w.all fun c => c = '0' ∨ c = '1' then .number .bin
  else if w.all fun c => '0' ≤ c ∧ c ≤ '7' then .number .oct
  else .number .hex

/-- Whether `w` as a whole is one token. -/
def isTokenWord (w : List Char) : Bool :=
  isName w || isHexadecimal w

/-- Whether `w` is a digit and hexadecimal digits behind it. -/
def isLiteral : List Char → Bool
  | [] => false
  | c :: cs => c.isDigit && cs.all Char.isHexDigit

section Kinds

variable {b : Base} {w : List Char}

theorem isWord_of_isTokenWord (h : isTokenWord w = true) : ∀ c ∈ w, isWord c = true := by
  intro c hc
  rw [isTokenWord, Bool.or_eq_true] at h
  rcases h with h | h
  · cases w with
    | nil => cases hc
    | cons d w =>
      simp only [isName, Bool.and_eq_true, List.all_eq_true] at h
      rcases List.mem_cons.mp hc with rfl | hc
      · exact isWord_of_isNameStart h.1
      · exact isWord_of_isNameRest (h.2 c hc)
  · simp only [isHexadecimal, Bool.and_eq_true, List.all_eq_true] at h
    exact isWord_of_isAlphanum (isAlphanum_of_isHexDigit (h.2 c hc))

theorem ne_nil_of_isTokenWord (h : isTokenWord w = true) : w ≠ [] := by
  rintro rfl
  cases h

theorem kindOfWord_of_not_isKeyword (h : ∀ b, ¬ IsKeyword b w) :
    kindOfWord w =
      if isName w then .identifier
      else if w.all fun c => c = '0' ∨ c = '1' then .number .bin
      else if w.all fun c => '0' ≤ c ∧ c ≤ '7' then .number .oct
      else .number .hex := by
  rw [kindOfWord, if_neg (h .bin), if_neg (h .oct), if_neg (h .hex)]

theorem kindOfWord_eq_keyword_iff : kindOfWord w = .keyword b ↔ IsKeyword b w := by
  constructor
  · intro h
    unfold kindOfWord at h
    repeat' split at h
    all_goals cases h
    all_goals assumption
  · intro h
    have hne (a : Base) (hab : a ≠ b) : ¬ IsKeyword a w := fun ha => hab (ha.unique h)
    unfold kindOfWord
    cases b
    · rw [if_pos h]
    · rw [if_neg (hne .bin (by decide)), if_pos h]
    · rw [if_neg (hne .bin (by decide)), if_neg (hne .oct (by decide)), if_pos h]

theorem kindOfWord_eq_identifier_iff :
    kindOfWord w = .identifier ↔ isName w = true ∧ ∀ b, ¬ IsKeyword b w := by
  constructor
  · intro h
    have hkeyword (b : Base) : ¬ IsKeyword b w := by
      intro hb
      rw [kindOfWord_eq_keyword_iff.mpr hb] at h
      cases h
    rw [kindOfWord_of_not_isKeyword hkeyword] at h
    refine ⟨?_, hkeyword⟩
    repeat' split at h
    all_goals cases h
    assumption
  · rintro ⟨hname, hkeyword⟩
    rw [kindOfWord_of_not_isKeyword hkeyword, if_pos hname]

/-- What is no name is a number. -/
theorem isNumber_kindOfWord : (kindOfWord w).isNumber = !isName w := by
  cases hname : isName w with
  | true =>
    unfold kindOfWord
    rw [if_pos hname]
    repeat' split
    all_goals rfl
  | false =>
    have hkeyword (b : Base) : ¬ IsKeyword b w := by
      intro hb
      rw [isName_of_isKeyword hb] at hname
      cases hname
    rw [kindOfWord_of_not_isKeyword hkeyword, if_neg (by simp [hname])]
    repeat' split
    all_goals rfl

/-- The words that are numbers: hexadecimal digits behind a letter make a name. -/
theorem isLiteral_iff : isLiteral w = true ↔ isTokenWord w = true ∧ isName w = false := by
  cases w with
  | nil => simp [isLiteral, isTokenWord, isName, isHexadecimal]
  | cons c cs =>
    have hhex : (cs.all Char.isHexDigit = true) → cs.all isNameRest = true := by
      rw [List.all_eq_true, List.all_eq_true]
      intro h d hd
      have := isAlphanum_of_isHexDigit (h d hd)
      simp only [Char.isAlphanum, Bool.or_eq_true] at this
      simp only [isNameRest, isNameStart, Bool.or_eq_true]
      tauto
    cases hd : c.isDigit with
    | true =>
      simp [isLiteral, isTokenWord, isName, isHexadecimal, hd,
        isNameStart_eq_false_of_isDigit hd, Char.isHexDigit]
    | false =>
      simp only [isLiteral, hd, Bool.false_and, Bool.false_eq_true, false_iff, not_and]
      intro ht hname
      rw [isTokenWord, hname, Bool.false_or] at ht
      simp only [isHexadecimal, List.all_cons, Bool.and_eq_true] at ht
      have halpha : c.isAlpha = true := by
        have := isAlphanum_of_isHexDigit ht.2.1
        simpa [Char.isAlphanum, hd] using this
      simp [isName, isNameStart, halpha, hhex ht.2.2] at hname

end Kinds

end Numeral
