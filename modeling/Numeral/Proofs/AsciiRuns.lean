import Mathlib.Data.List.DropRight
import Numeral.Proofs.Separator
import Numeral.Proofs.Tiling

/-!
# Runs of ASCII letters

Someone who thinks of names as ASCII letters, digits and underscores sees a name in every maximal run
of them that does not start with a digit. The scanner sees words instead: a run goes on with every
word character, and four letters beyond ASCII are letters of a name. So what becomes of a run is
decided by its neighbours, and most of it by the characters behind it.

- `isAsciiName`, `IsMaximalRun`: the runs.
- `tokensOn`, `IsOneName`: the tokens that cover a part of a line, and whether that is one name or
  keyword.
- `tokensFrom_append_of_endsNoWord`, `tokensFrom_lost`: a text is cut behind one that ends no word,
  and a word loses the characters that no token word starts with.
- `nameBefore`, `exists_lost_append_nameBefore`: the name in front of a run, and what is lost in
  front of that.
- `wordAround`, `IsCut`: the word that holds a run, and the line that is cut at it.
- `tokensOn_run`: the tokens of a run, whatever its neighbours are.
- `isOneName_run_iff`: a run is one token iff no word character is behind it and no letter beyond
  ASCII that names have is in front of it.
-/

namespace Numeral

/-! ## Runs -/

/-- Whether a name of ASCII characters may start with `c`. -/
def isAsciiNameStart (c : Char) : Bool :=
  c.isAlpha || c = '_'

/-- Whether a name of ASCII characters may go on with `c`. -/
def isAsciiNameRest (c : Char) : Bool :=
  isAsciiNameStart c || c.isDigit

/-- Whether `w` is a name of ASCII characters. -/
def isAsciiName : List Char → Bool
  | [] => false
  | c :: cs => isAsciiNameStart c && cs.all isAsciiNameRest

/-- In the line that is made of the three texts, `run` is a name of ASCII characters that cannot be
made longer. -/
structure IsMaximalRun (before run after : String) : Prop where
  isAsciiName : isAsciiName run.toList = true
  before : ∀ c ∈ before.toList.getLast?, isAsciiNameRest c = false
  after : ∀ c ∈ after.toList.head?, isAsciiNameRest c = false

/-- The tokens that cover some of the characters of a span. -/
def tokensOn (text : String) (s : Span) : List Token :=
  (tokensOf text).filter fun t => t.span.start < s.stop ∧ s.start < t.span.stop

/-- The characters of a span make one token, which is an identifier or a keyword. -/
def IsOneName (text : String) (s : Span) : Prop :=
  ∃ t, tokensOn text s = [t] ∧ t.span = s ∧ (t.kind = .identifier ∨ ∃ b, t.kind = .keyword b)

section Letters

variable {c d : Char} {w : List Char}

theorem isNameStart_eq (c : Char) :
    isNameStart c = (isAsciiNameStart c || decide (c ∈ foldedLetters)) :=
  rfl

theorem isNameRest_iff :
    isNameRest c = true ↔ isAsciiNameRest c = true ∨ c ∈ foldedLetters := by
  simp only [isNameRest, isNameStart_eq, isAsciiNameRest, Bool.or_eq_true, decide_eq_true_eq]
  tauto

private theorem isNameRest_of_isHexDigit (h : c.isHexDigit = true) : isNameRest c = true := by
  have halphanum := isAlphanum_of_isHexDigit h
  simp only [Char.isAlphanum, Bool.or_eq_true] at halphanum
  simp only [isNameRest, isNameStart, Bool.or_eq_true]
  tauto

private theorem isHexDigit_eq_false_of_mem_foldedLetters (h : c ∈ foldedLetters) :
    c.isHexDigit = false := by
  simp only [foldedLetters, List.mem_cons, List.not_mem_nil, or_false] at h
  rcases h with rfl | rfl | rfl | rfl <;> decide

private theorem isNameRest_of_mem_isAsciiName (h : isAsciiName w = true) :
    ∀ c ∈ w, isNameRest c = true := by
  cases w with
  | nil => cases h
  | cons c cs =>
    simp only [isAsciiName, Bool.and_eq_true, List.all_eq_true] at h
    rw [List.forall_mem_cons]
    refine ⟨?_, fun d hd => isNameRest_iff.mpr (.inl (h.2 d hd))⟩
    rw [isNameRest, isNameStart_eq, h.1]
    rfl

/-- No token word holds a character that no name goes on with. -/
theorem isTokenWord_eq_false_of_mem (hc : c ∈ w) (hrest : isNameRest c = false) :
    isTokenWord w = false := by
  have hname : isName w = false := by
    cases w with
    | nil => cases hc
    | cons d cs =>
      rw [Bool.eq_false_iff]
      intro h
      simp only [isName, Bool.and_eq_true, List.all_eq_true] at h
      rcases List.mem_cons.mp hc with rfl | hc
      · simp [isNameRest, h.1] at hrest
      · simp [h.2 c hc] at hrest
  have hhex : isHexadecimal w = false := by
    rw [Bool.eq_false_iff]
    intro h
    simp only [isHexadecimal, Bool.and_eq_true, List.all_eq_true] at h
    simp [isNameRest_of_isHexDigit (h.2 c hc)] at hrest
  rw [isTokenWord, hname, hhex, Bool.or_false]

/-- No token word starts with a digit and goes on to a letter beyond ASCII. -/
theorem isTokenWord_eq_false_of_isDigit (hc : c.isDigit = true) (hd : d ∈ w)
    (hfolded : d ∈ foldedLetters) : isTokenWord (c :: w) = false := by
  have hhex : isHexadecimal (c :: w) = false := by
    rw [Bool.eq_false_iff]
    intro h
    simp only [isHexadecimal, Bool.and_eq_true, List.all_eq_true] at h
    have hd := h.2 d (List.mem_cons_of_mem _ hd)
    simp [isHexDigit_eq_false_of_mem_foldedLetters hfolded] at hd
  rw [isTokenWord, isName, isNameStart_eq_false_of_isDigit hc, hhex]
  rfl

end Letters

/-! ## Cutting a text -/

/-- No word that ends `cs` goes on behind it. -/
def EndsNoWord (cs : List Char) : Prop :=
  ∀ c ∈ cs.getLast?, isWord c = false

section Cut

variable {offset : Nat} {cs lost w r : List Char} {t : Token}

/-- Behind characters that end no word, a text has the tokens that it has on its own. -/
theorem tokensFrom_append_of_endsNoWord (hcs : EndsNoWord cs) (offset : Nat) (r : List Char) :
    tokensFrom offset (cs ++ r) =
      (tokensFrom offset cs).dropLast ++ tokensFrom (offset + cs.length) r := by
  rcases List.eq_nil_or_concat' cs with rfl | ⟨cs, c, rfl⟩
  · simp [tokensFrom_nil]
  · have hc : isWord c = false := hcs c (by simp)
    rw [List.append_assoc, List.singleton_append, tokensFrom_append (startsNoWord_cons hc),
      tokensFrom_append (startsNoWord_cons hc), tokensFrom_separator hc, tokensFrom_separator hc,
      tokensFrom_nil, List.length_append, List.length_singleton, Nat.add_assoc,
      ← List.append_assoc, ← List.append_assoc, List.dropLast_concat]

/-- The invalid tokens of characters, of which the first one stands at `offset`. -/
def invalidTokens (offset : Nat) (cs : List Char) : List Token :=
  cs.mapIdx fun i c => .ofChars .invalid (offset + i) [c]

theorem invalidTokens_cons (offset : Nat) (c : Char) (cs : List Char) :
    invalidTokens offset (c :: cs) =
      .ofChars .invalid offset [c] :: invalidTokens (offset + 1) cs := by
  simp only [invalidTokens, List.mapIdx_cons, Nat.add_zero, Nat.add_assoc, Nat.add_comm 1]

theorem invalidTokens_append (offset : Nat) (cs ds : List Char) :
    invalidTokens offset (cs ++ ds) =
      invalidTokens offset cs ++ invalidTokens (offset + cs.length) ds := by
  simp only [invalidTokens, List.mapIdx_append, Nat.add_assoc, Nat.add_comm cs.length]

private theorem kind_of_mem_invalidTokens (h : t ∈ invalidTokens offset cs) :
    t.kind = .invalid := by
  obtain ⟨i, hi, rfl⟩ := List.mem_mapIdx.mp h
  rfl

private theorem span_of_mem_invalidTokens (h : t ∈ invalidTokens offset cs) :
    offset ≤ t.span.start ∧ t.span.stop = t.span.start + 1 ∧
      t.span.stop ≤ offset + cs.length := by
  obtain ⟨i, hi, rfl⟩ := List.mem_mapIdx.mp h
  dsimp only [Token.ofChars, Span.ofLength, List.length_singleton]
  refine ⟨Nat.le_add_right _ _, rfl, ?_⟩
  omega

/-- **Lost characters.** As long as no token word starts with what is left of a word, the word loses
one character after the other. -/
theorem tokensFrom_lost (hw : ∀ c ∈ lost ++ w, isWord c = true) (hr : StartsNoWord r)
    (hlost : ∀ l, l ≠ [] → l <:+ lost → isTokenWord (l ++ w) = false) :
    tokensFrom offset (lost ++ w ++ r) =
      invalidTokens offset lost ++ tokensFrom (offset + lost.length) (w ++ r) := by
  induction lost generalizing offset with
  | nil => rfl
  | cons c lost ih =>
    have ht : isTokenWord (c :: (lost ++ w)) = false :=
      hlost (c :: lost) (List.cons_ne_nil c lost) (List.suffix_refl _)
    have hwords : ∀ d ∈ lost ++ w, isWord d = true := fun d hd =>
      hw d (List.mem_cons_of_mem _ hd)
    have hlosts : ∀ l, l ≠ [] → l <:+ lost → isTokenWord (l ++ w) = false := fun l hne hl =>
      hlost l hne (hl.trans (List.suffix_cons c lost))
    have hfirst : tokensFrom offset (c :: (lost ++ w ++ r)) =
        .ofChars .invalid offset [c] :: tokensFrom (offset + 1) (lost ++ w ++ r) :=
      tokensFrom_word_of_not_tokenWord hw hr ht
    rw [List.cons_append, List.cons_append, hfirst, ih hwords hlosts, invalidTokens_cons,
      List.length_cons, Nat.add_assoc, Nat.add_comm 1, List.cons_append]

/-! ## Where the tokens of a text stand -/

theorem le_start_of_mem_tokensFrom (h : t ∈ tokensFrom offset cs) : offset ≤ t.span.start := by
  obtain ⟨tokens, hdrain, htiles⟩ := (Scanner.ofRest offset cs).exists_tiles_drain
  rw [tokensFrom, hdrain, List.mem_append, List.mem_singleton] at h
  rcases h with h | rfl
  · exact (htiles.span_bounds t h).1
  · exact Nat.le_add_right _ _

private theorem stop_le_of_mem_dropLast (h : t ∈ (tokensFrom offset cs).dropLast) :
    t.span.stop ≤ offset + cs.length := by
  obtain ⟨tokens, hdrain, htiles⟩ := (Scanner.ofRest offset cs).exists_tiles_drain
  rw [tokensFrom, hdrain, List.dropLast_concat] at h
  exact (htiles.span_bounds t h).2.2

/-- Of tokens in front of a span, on it and behind it, those on it cover some of its characters. -/
private theorem filter_covers {ts us vs : List Token} {s : Span}
    (hts : ∀ t ∈ ts, t.span.stop ≤ s.start)
    (hus : ∀ t ∈ us, t.span.start < s.stop ∧ s.start < t.span.stop)
    (hvs : ∀ t ∈ vs, s.stop ≤ t.span.start) :
    (ts ++ (us ++ vs)).filter (fun t => t.span.start < s.stop ∧ s.start < t.span.stop) = us := by
  have hts' : ts.filter (fun t => t.span.start < s.stop ∧ s.start < t.span.stop) = [] := by
    rw [List.filter_eq_nil_iff]
    intro t ht
    have := hts t ht
    simp only [decide_eq_true_eq]
    omega
  have hus' : us.filter (fun t => t.span.start < s.stop ∧ s.start < t.span.stop) = us := by
    rw [List.filter_eq_self]
    intro t ht
    simpa using hus t ht
  have hvs' : vs.filter (fun t => t.span.start < s.stop ∧ s.start < t.span.stop) = [] := by
    rw [List.filter_eq_nil_iff]
    intro t ht
    have := hvs t ht
    simp only [decide_eq_true_eq]
    omega
  rw [List.filter_append, List.filter_append, hts', hus', hvs', List.nil_append, List.append_nil]

end Cut

/-! ## Names in front of a run -/

/-- The name at the end of `before` that a run behind it goes on with. -/
def nameBefore (before : List Char) : List Char :=
  (before.rtakeWhile isNameRest).dropWhile Char.isDigit

section Before

variable {before run w : List Char} {c : Char}

private theorem isDigit_eq_false_of_isAsciiNameRest (h : isAsciiNameRest c = false) :
    c.isDigit = false := by
  rw [isAsciiNameRest, Bool.or_eq_false_iff] at h
  exact h.2

private theorem length_nameBefore_le (before : List Char) :
    (nameBefore before).length ≤ before.length :=
  (List.dropWhile_sublist _).length_le.trans (List.rtakeWhile_suffix _ _).length_le

private theorem isNameRest_of_mem_nameBefore (h : c ∈ nameBefore before) : isNameRest c = true :=
  List.mem_rtakeWhile_imp ((List.dropWhile_sublist _).mem h)

/-- Where no name of ASCII characters reaches the end of a text, a name that does ends with a letter
beyond ASCII. -/
theorem nameBefore_concat (before : List Char) (hc : isAsciiNameRest c = false) :
    c ∈ foldedLetters ∧ c ∈ nameBefore (before ++ [c]) ∨
      c ∉ foldedLetters ∧ (before ++ [c]).rtakeWhile isNameRest = [] := by
  by_cases hfolded : c ∈ foldedLetters
  · refine .inl ⟨hfolded, ?_⟩
    have hrest : isNameRest c = true := isNameRest_iff.mpr (.inr hfolded)
    have hmem : c ∈ (before ++ [c]).rtakeWhile isNameRest := by
      rw [List.rtakeWhile_concat_pos _ _ _ hrest]
      exact List.mem_append_right _ (List.mem_singleton_self c)
    rw [← List.takeWhile_append_dropWhile (p := Char.isDigit)
      (l := (before ++ [c]).rtakeWhile isNameRest), List.mem_append] at hmem
    rcases hmem with hmem | hmem
    · have hdigit := List.mem_takeWhile_imp hmem
      rw [isDigit_eq_false_of_isAsciiNameRest hc] at hdigit
      cases hdigit
    · exact hmem
  · refine .inr ⟨hfolded, List.rtakeWhile_concat_neg _ _ _ ?_⟩
    rw [isNameRest_iff, hc]
    simpa using hfolded

private theorem nameBefore_eq_nil_iff (h : ∀ c ∈ before.getLast?, isAsciiNameRest c = false) :
    nameBefore before = [] ↔ ∀ c ∈ before.getLast?, c ∉ foldedLetters := by
  rcases List.eq_nil_or_concat' before with rfl | ⟨before, c, rfl⟩
  · simp [nameBefore]
  · simp only [List.getLast?_concat, Option.mem_some_iff, forall_eq'] at h ⊢
    rcases nameBefore_concat before h with ⟨hfolded, hmem⟩ | ⟨hfolded, hnil⟩
    · exact iff_of_false (List.ne_nil_of_mem hmem) (not_not_intro hfolded)
    · exact iff_of_true (by rw [nameBefore, hnil, List.dropWhile_nil]) hfolded

/-- A run that goes on with the name in front of it, and with letters and digits behind it, is a
name. -/
theorem isName_nameBefore_append (before : List Char) (hrun : isAsciiName run = true)
    (hw : w.all isNameRest = true) :
    isName (nameBefore before ++ (run ++ w)) = true := by
  have hrest : ∀ c ∈ run ++ w, isNameRest c = true := by
    rw [List.forall_mem_append, ← List.all_eq_true (l := w)]
    exact ⟨isNameRest_of_mem_isAsciiName hrun, hw⟩
  cases hfront : nameBefore before with
  | nil =>
    -- No name stands in front, so that the run itself has to start like one.
    cases run with
    | nil => cases hrun
    | cons c cs =>
      simp only [isAsciiName, Bool.and_eq_true] at hrun
      simp only [List.nil_append, List.cons_append, isName, isNameStart_eq, hrun.1, Bool.true_or,
        Bool.true_and, List.all_eq_true]
      exact fun d hd => hrest d (List.mem_cons_of_mem _ hd)
  | cons c cs =>
    have hmem : ∀ d ∈ c :: cs, isNameRest d = true := by
      rw [← hfront]
      exact fun d hd => isNameRest_of_mem_nameBefore hd
    -- What is left behind the digits does not start with one.
    have hdigit : c.isDigit = false := by
      have hhead := List.head?_dropWhile_not Char.isDigit (before.rtakeWhile isNameRest)
      rw [← nameBefore, hfront] at hhead
      simpa using hhead
    have hstart : isNameStart c = true := by
      simpa [isNameRest, hdigit] using hmem c List.mem_cons_self
    rw [List.cons_append, isName, hstart, Bool.true_and, List.all_eq_true, List.forall_mem_append]
    exact ⟨fun d hd => hmem d (List.mem_cons_of_mem _ hd), hrest⟩

private theorem eq_false_of_mem_getLast?_rdropWhile {p : Char → Bool} {cs : List Char}
    (h : c ∈ (cs.rdropWhile p).getLast?) : p c = false := by
  obtain ⟨hne, rfl⟩ := List.mem_getLast?_eq_getLast h
  exact Bool.eq_false_iff.mpr (List.rdropWhile_last_not p cs hne)

/-- A word that starts in front of a name's last characters is no token: it holds a character that
no name goes on with. -/
theorem isTokenWord_append_eq_false_of_suffix {l : List Char}
    (h : l <:+ before.rdropWhile isNameRest) (hne : l ≠ []) (w : List Char) :
    isTokenWord (l ++ w) = false := by
  have hlast : l.getLast hne ∈ (before.rdropWhile isNameRest).getLast? := by
    rw [h.getLast hne]
    exact List.getLast?_eq_some_getLast _
  exact isTokenWord_eq_false_of_mem (List.mem_append_left _ (List.getLast_mem hne))
    (eq_false_of_mem_getLast?_rdropWhile hlast)

/-- A word that starts with a digit in front of a name is no token: the name holds a letter beyond
ASCII. -/
theorem isTokenWord_digits_append_eq_false (h : ∀ c ∈ before.getLast?, isAsciiNameRest c = false)
    {l : List Char} (hl : l <:+ (before.rtakeWhile isNameRest).takeWhile Char.isDigit)
    (hne : l ≠ []) (w : List Char) : isTokenWord (l ++ (nameBefore before ++ w)) = false := by
  have hname : before.rtakeWhile isNameRest ≠ [] := by
    obtain ⟨d, hd⟩ := List.exists_mem_of_ne_nil l hne
    exact List.ne_nil_of_mem ((List.takeWhile_sublist _).mem (hl.mem hd))
  obtain ⟨c, l, rfl⟩ := List.exists_cons_of_ne_nil hne
  have hdigit : c.isDigit = true := List.mem_takeWhile_imp (hl.mem List.mem_cons_self)
  rcases List.eq_nil_or_concat' before with rfl | ⟨before, d, rfl⟩
  · exact absurd (List.rtakeWhile_nil _) hname
  · rcases nameBefore_concat before (h d (by simp)) with ⟨hfolded, hmem⟩ | ⟨-, hnil⟩
    · exact isTokenWord_eq_false_of_isDigit hdigit
        (List.mem_append_right _ (List.mem_append_left _ hmem)) hfolded
    · exact absurd hnil hname

/-- A text is cut in front of the word at its end, and that word loses what is in front of the
name. -/
theorem exists_lost_append_nameBefore (h : ∀ c ∈ before.getLast?, isAsciiNameRest c = false) :
    ∃ pre lost, before = pre ++ (lost ++ nameBefore before) ∧
      EndsNoWord pre ∧ (∀ c ∈ lost, isWord c = true) ∧
      ∀ w l, l ≠ [] → l <:+ lost → isTokenWord (l ++ (nameBefore before ++ w)) = false := by
  -- Read from its end, the text is a name, digits in front of it, and `front`, which ends with a
  -- character that no name goes on with.
  let name := before.rtakeWhile isNameRest
  let front := before.rdropWhile isNameRest
  let digits := name.takeWhile Char.isDigit
  have hname : digits ++ nameBefore before = name := List.takeWhile_append_dropWhile
  have hbefore : front ++ name = before := List.rdropWhile_append_rtakeWhile
  have hfront : front.rdropWhile isWord ++ front.rtakeWhile isWord = front :=
    List.rdropWhile_append_rtakeWhile
  refine ⟨front.rdropWhile isWord, front.rtakeWhile isWord ++ digits, ?_, ?_, ?_, ?_⟩
  · rw [List.append_assoc, hname, ← List.append_assoc, hfront, hbefore]
  · exact fun c hc => eq_false_of_mem_getLast?_rdropWhile hc
  · rw [List.forall_mem_append]
    refine ⟨fun c hc => List.mem_rtakeWhile_imp hc, fun c hc => ?_⟩
    have hmem : c ∈ name := (List.takeWhile_sublist _).mem hc
    exact isWord_of_isNameRest (List.mem_rtakeWhile_imp hmem)
  · intro w l hne hl
    -- What is left of the word starts in front of the digits or with one of them.
    obtain ⟨k, hk⟩ := hl
    rcases List.append_eq_append_iff.mp hk with ⟨l', hl', rfl⟩ | ⟨k', -, hl'⟩
    · by_cases hnil : l' = []
      · subst hnil
        exact isTokenWord_digits_append_eq_false h (List.suffix_refl _) hne w
      · have hsuffix : l' <:+ front :=
          (hl' ▸ List.suffix_append k l').trans (List.rtakeWhile_suffix _ _)
        rw [List.append_assoc]
        exact isTokenWord_append_eq_false_of_suffix hsuffix hnil _
    · exact isTokenWord_digits_append_eq_false h ⟨k', hl'.symm⟩ hne w

end Before

/-! ## The tokens of a run -/

section Run

variable {before run after : String}

/-- The characters of a word that make one token with a run, if they make one at all: the name in
front of the run, the run, and the word characters behind it. -/
def wordAround (before run after : String) : List Char :=
  nameBefore before.toList ++ (run.toList ++ after.toList.takeWhile isWord)

theorem length_wordAround :
    (wordAround before run after).length = (nameBefore before.toList).length +
      (run.length + (after.toList.takeWhile isWord).length) := by
  rw [wordAround, List.length_append, List.length_append, String.length_toList]

/-- The tokens in front of lost characters and those of them end where the lost characters do. -/
theorem stop_le_of_mem_cut {pre lost : List Char} {t : Token}
    (h : t ∈ (tokensFrom 0 pre).dropLast ++ invalidTokens pre.length lost) :
    t.span.stop ≤ pre.length + lost.length := by
  rcases List.mem_append.mp h with h | h
  · have := stop_le_of_mem_dropLast h
    omega
  · exact (span_of_mem_invalidTokens h).2.2

/-- In the line that is made of the three texts, the word that holds `run` stands behind `pre` and
loses `lost`. -/
structure IsCut (before run after : String) (pre lost : List Char) : Prop where
  toList_eq : before.toList = pre ++ (lost ++ nameBefore before.toList)
  endsNoWord : EndsNoWord pre
  all_isWord : ∀ c ∈ lost ++ wordAround before run after, isWord c = true
  isTokenWord_eq_false : ∀ w l, l ≠ [] → l <:+ lost →
    isTokenWord (l ++ (nameBefore before.toList ++ w)) = false

theorem IsMaximalRun.exists_isCut (h : IsMaximalRun before run after) :
    ∃ pre lost, IsCut before run after pre lost := by
  obtain ⟨pre, lost, hbefore, hpre, hlostWord, hlost⟩ := exists_lost_append_nameBefore h.before
  refine ⟨pre, lost, hbefore, hpre, ?_, hlost⟩
  simp only [wordAround, List.forall_mem_append]
  exact ⟨hlostWord, fun c hc => isWord_of_isNameRest (isNameRest_of_mem_nameBefore hc),
    fun c hc => isWord_of_isNameRest (isNameRest_of_mem_isAsciiName h.isAsciiName c hc),
    fun c hc => List.mem_takeWhile_imp hc⟩

namespace IsCut

variable {pre lost w : List Char}

private theorem length_before (h : IsCut before run after pre lost) :
    before.length = pre.length + lost.length + (nameBefore before.toList).length := by
  have hlength := congrArg List.length h.toList_eq
  rw [String.length_toList, List.length_append, List.length_append] at hlength
  omega

/-- The tokens of the line, where no token word starts with the characters of the word that stand in
front of `w`. -/
theorem tokensOf_eq (h : IsCut before run after pre lost) {cs : List Char}
    (hw : cs ++ w = wordAround before run after)
    (hcs : ∀ l, l ≠ [] → l <:+ lost ++ cs → isTokenWord (l ++ w) = false) :
    tokensOf (before ++ run ++ after) =
      (tokensFrom 0 pre).dropLast ++ invalidTokens pre.length (lost ++ cs) ++
        tokensFrom (pre.length + (lost ++ cs).length)
          (w ++ after.toList.dropWhile isWord) := by
  have hchars : (before ++ run ++ after).toList =
      pre ++ (lost ++ cs ++ w ++ after.toList.dropWhile isWord) := by
    calc (before ++ run ++ after).toList
        = before.toList ++ (run.toList ++ after.toList) := by simp
      _ = pre ++ (lost ++ nameBefore before.toList) ++ (run.toList ++
            (after.toList.takeWhile isWord ++ after.toList.dropWhile isWord)) := by
        rw [← h.toList_eq, List.takeWhile_append_dropWhile]
      _ = pre ++ (lost ++ wordAround before run after ++ after.toList.dropWhile isWord) := by
        simp only [wordAround, List.append_assoc]
      _ = _ := by simp only [← hw, List.append_assoc]
  have hword : ∀ c ∈ lost ++ cs ++ w, isWord c = true := by
    rw [List.append_assoc, hw]
    exact h.all_isWord
  rw [tokensOf_eq_tokensFrom, hchars, tokensFrom_append_of_endsNoWord h.endsNoWord, Nat.zero_add,
    tokensFrom_lost hword (startsNoWord_dropWhile _) hcs, List.append_assoc]

end IsCut

theorem IsMaximalRun.length_pos (h : IsMaximalRun before run after) : 0 < run.length := by
  have hname := h.isAsciiName
  rw [← String.length_toList]
  cases hrun : run.toList with
  | nil =>
    rw [hrun] at hname
    cases hname
  | cons c cs => exact Nat.succ_pos _

/-- Where only letters of a name and digits go on with a run, the run is in one token. -/
theorem tokensOn_run_of_all (h : IsMaximalRun before run after)
    (htail : (after.toList.takeWhile isWord).all isNameRest = true) :
    tokensOn (before ++ run ++ after) (.ofLength before.length run.length) =
      [.ofChars (kindOfWord (wordAround before run after))
        (before.length - (nameBefore before.toList).length) (wordAround before run after)] := by
  obtain ⟨pre, lost, hcut⟩ := h.exists_isCut
  have hname : isName (wordAround before run after) = true :=
    isName_nameBefore_append before.toList h.isAsciiName htail
  have htoken : isTokenWord (wordAround before run after) = true := by
    rw [isTokenWord, hname, Bool.true_or]
  have htokens := hcut.tokensOf_eq (List.nil_append _) (fun l hne hl =>
    hcut.isTokenWord_eq_false _ l hne (by rwa [List.append_nil] at hl))
  have hlength := hcut.length_before
  have hpos := h.length_pos
  have hstart : pre.length + lost.length = before.length - (nameBefore before.toList).length := by
    omega
  rw [List.append_nil, tokensFrom_tokenWord (startsNoWord_dropWhile _) htoken, hstart,
    ← List.singleton_append] at htokens
  rw [tokensOn, htokens]
  -- The tokens in front of the word end before the run, and those behind it start after the run.
  refine filter_covers (fun t ht => ?_) ?_ (fun t ht => ?_)
  · have := stop_le_of_mem_cut ht
    simp only [Span.ofLength]
    omega
  · rw [List.forall_mem_singleton]
    simp only [Token.ofChars, Span.ofLength, length_wordAround]
    omega
  · have := le_start_of_mem_tokensFrom ht
    rw [length_wordAround] at this
    simp only [Span.ofLength]
    omega

/-- Where another word character goes on with a run, all characters of the run are lost. -/
theorem tokensOn_run_of_any (h : IsMaximalRun before run after) {c : Char}
    (hc : c ∈ after.toList.takeWhile isWord) (hrest : isNameRest c = false) :
    tokensOn (before ++ run ++ after) (.ofLength before.length run.length) =
      invalidTokens before.length run.toList := by
  obtain ⟨pre, lost, hcut⟩ := h.exists_isCut
  -- No rest of the word is a token, since every one of them holds `c`.
  have htokens := hcut.tokensOf_eq (w := after.toList.takeWhile isWord)
    (List.append_assoc _ _ _) (fun l _ _ =>
      isTokenWord_eq_false_of_mem (List.mem_append_right l hc) hrest)
  have hlength := hcut.length_before
  have hfront : pre.length + (lost ++ nameBefore before.toList).length = before.length := by
    rw [List.length_append]
    omega
  rw [← List.append_assoc lost, invalidTokens_append, hfront, List.length_append, ← Nat.add_assoc,
    hfront, ← List.append_assoc, List.append_assoc _ (invalidTokens before.length run.toList)]
    at htokens
  rw [tokensOn, htokens]
  refine filter_covers (fun t ht => ?_) (fun t ht => ?_) (fun t ht => ?_)
  · have := stop_le_of_mem_cut ht
    simp only [Span.ofLength]
    omega
  · have := span_of_mem_invalidTokens ht
    rw [String.length_toList] at this
    simp only [Span.ofLength]
    omega
  · have := le_start_of_mem_tokensFrom ht
    rw [String.length_toList] at this
    simpa only [Span.ofLength] using this

/-- **The tokens of a run.** Whatever its neighbours are, a run is a part of one token, or each of its
characters is an invalid one. -/
theorem tokensOn_run (h : IsMaximalRun before run after) :
    tokensOn (before ++ run ++ after) (.ofLength before.length run.length) =
      if (after.toList.takeWhile isWord).all isNameRest then
        [.ofChars (kindOfWord (wordAround before run after))
          (before.length - (nameBefore before.toList).length) (wordAround before run after)]
      else invalidTokens before.length run.toList := by
  cases htail : (after.toList.takeWhile isWord).all isNameRest with
  | true => rw [if_pos rfl, tokensOn_run_of_all h htail]
  | false =>
    obtain ⟨c, hc, hrest⟩ := List.all_eq_false.mp htail
    rw [if_neg Bool.false_ne_true,
      tokensOn_run_of_any h hc (Bool.eq_false_iff.mpr hrest)]

private theorem kindOfWord_of_isName {w : List Char} (h : isName w = true) :
    kindOfWord w = .identifier ∨ ∃ b, kindOfWord w = .keyword b := by
  by_cases hkeyword : ∃ b, IsKeyword b w
  · obtain ⟨b, hb⟩ := hkeyword
    exact .inr ⟨b, kindOfWord_eq_keyword_iff.mpr hb⟩
  · exact .inl (kindOfWord_eq_identifier_iff.mpr ⟨h, not_exists.mp hkeyword⟩)

private theorem takeWhile_isWord_eq_nil_iff {cs : List Char} :
    cs.takeWhile isWord = [] ↔ StartsNoWord cs := by
  cases cs with
  | nil => simp [StartsNoWord]
  | cons c cs => simp [StartsNoWord, List.takeWhile_cons]

/-- A letter beyond ASCII goes on with the run to its right, and a digit in front of it is lost. -/
example : tokensOn "1\u017Fab" (.ofLength 2 2) =
    [⟨.identifier, "\u017Fab", .ofLength 1 3⟩] := by
  decide +kernel

/-- **Runs that are names.** A run of ASCII letters, digits and underscores is one identifier or one
keyword iff no word character is behind it and no letter beyond ASCII that is a letter of a name in
front of it. Otherwise it is a part of a longer token, or all of its characters are invalid. -/
theorem isOneName_run_iff (h : IsMaximalRun before run after) :
    (IsOneName (before ++ run ++ after) (.ofLength before.length run.length) ↔
      (∀ c ∈ after.toList.head?, isWord c = false) ∧
        ∀ c ∈ before.toList.getLast?, c ∉ foldedLetters) ∧
      tokensOn (before ++ run ++ after) (.ofLength before.length run.length) =
        if (after.toList.takeWhile isWord).all isNameRest then
          [.ofChars (kindOfWord (wordAround before run after))
            (before.length - (nameBefore before.toList).length) (wordAround before run after)]
        else invalidTokens before.length run.toList := by
  refine ⟨?_, tokensOn_run h⟩
  rw [← nameBefore_eq_nil_iff h.before, ← StartsNoWord, ← takeWhile_isWord_eq_nil_iff]
  constructor
  · rintro ⟨t, ht, hspan, hkind⟩
    rw [tokensOn_run h] at ht
    split at ht
    · -- The token takes as many characters in front of the run and behind it as the run itself.
      obtain rfl := List.singleton_inj.mp ht
      have hle := length_nameBefore_le before.toList
      rw [String.length_toList] at hle
      simp only [Token.ofChars, Span.ofLength, Span.mk.injEq, length_wordAround] at hspan
      rw [← List.length_eq_zero_iff, ← List.length_eq_zero_iff]
      omega
    · have hinvalid : t.kind = .invalid :=
        kind_of_mem_invalidTokens (ht ▸ List.mem_singleton_self t)
      simp [hinvalid] at hkind
  · rintro ⟨htail, hfront⟩
    have hword : wordAround before run after = run.toList := by
      rw [wordAround, htail, hfront, List.nil_append, List.append_nil]
    have hname := isName_nameBefore_append before.toList h.isAsciiName
      (w := after.toList.takeWhile isWord) (by rw [htail]; rfl)
    rw [← wordAround, hword] at hname
    refine ⟨_, tokensOn_run_of_all h (by rw [htail]; rfl), ?_, ?_⟩
    · rw [hword, hfront, Token.ofChars, String.length_toList]
      rfl
    · rw [hword]
      exact kindOfWord_of_isName hname

/-- A separator behind a run, and a letter in front of it that no name has, leave the run alone. -/
theorem isOneName_run_bin :
    IsMaximalRun "\u00E9" "bin" "\u00A7" ∧
      IsOneName ("\u00E9" ++ "bin" ++ "\u00A7") (.ofLength 1 3) := by
  have hmaximal : IsMaximalRun "\u00E9" "bin" "\u00A7" := by
    refine ⟨by decide +kernel, ?_, ?_⟩
    · simpa using (by decide : isAsciiNameRest '\u00E9' = false)
    · simpa using (by decide : isAsciiNameRest '\u00A7' = false)
  refine ⟨hmaximal, (isOneName_run_iff hmaximal).1.mpr ⟨?_, ?_⟩⟩
  · simpa using (by decide +kernel : isWord '\u00A7' = false)
  · simpa using (by decide : '\u00E9' ∉ foldedLetters)

/-- An accented letter behind a run is no character of a name, and yet the run is lost. -/
theorem not_forall_isOneName_run :
    ¬ ∀ before run after, IsMaximalRun before run after →
      IsOneName (before ++ run ++ after) (.ofLength before.length run.length) := by
  intro h
  have hmaximal : IsMaximalRun "" "abc" "\u00E9" := by
    refine ⟨by decide +kernel, by simp, ?_⟩
    simpa using (by decide : isAsciiNameRest '\u00E9' = false)
  have htokens : tokensOn ("" ++ "abc" ++ "\u00E9") (.ofLength "".length "abc".length) =
      invalidTokens 0 ['a', 'b', 'c'] := by
    decide +kernel
  obtain ⟨t, ht, -⟩ := h _ _ _ hmaximal
  have hlength := congrArg List.length (htokens.symm.trans ht)
  simp [invalidTokens] at hlength

end Run

end Numeral
