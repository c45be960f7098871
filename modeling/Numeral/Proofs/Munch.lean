import Numeral.Proofs.Word

/-!
# What the patterns take

A word form takes as many characters as it can and gives back until it ends at a word boundary. All
its classes lie in the word characters, and inside a word there is no boundary. So at the head of a
word it takes the whole rest of the word or nothing, and the order of the patterns decides on the
kind alone.

- `Form.length?_word`: a word form takes a whole word iff the word as a whole has the form.
- `first?_word`: the token at the head of a word.
- `first?_of_not_word`: the token at a character that belongs to no word.
-/

namespace Numeral

/-- `r` is empty or starts with a character that belongs to no word. -/
def StartsNoWord (r : List Char) : Prop :=
  ∀ c ∈ r.head?, isWord c = false

theorem startsNoWord_cons {c : Char} {cs : List Char} (h : isWord c = false) :
    StartsNoWord (c :: cs) := by
  simp [StartsNoWord, h]

theorem startsNoWord_dropWhile (cs : List Char) : StartsNoWord (cs.dropWhile isWord) := by
  intro c hc
  have := List.head?_dropWhile_not isWord cs
  rw [Option.mem_def.mp hc] at this
  simpa using this

/-! ## One form -/

section Classes

variable {p : Char → Bool} {w r : List Char}

/-- A class of word characters takes a word up to its end, or finds no boundary. -/
theorem takeToBoundary_word (hp : ∀ c, p c = true → isWord c = true) {before : Char}
    (hb : isWord before = true) (hw : ∀ c ∈ w, isWord c = true) (hr : StartsNoWord r) :
    takeToBoundary p (some before) (w ++ r) = if w.all p then some w.length else none := by
  induction w generalizing before with
  | nil =>
    cases r with
    | nil => simp [takeToBoundary, isWordBoundary, hb]
    | cons c cs =>
      have hc : isWord c = false := hr c (by simp)
      have hpc : p c = false := by
        rw [Bool.eq_false_iff]
        intro h
        simp [hp c h] at hc
      simp [takeToBoundary, isWordBoundary, hb, hc, hpc]
  | cons c w ih =>
    have hc : isWord c = true := hw c (by simp)
    have ih := ih hc (fun d hd => hw d (by simp [hd]))
    by_cases hpc : p c = true
    · rw [List.cons_append, takeToBoundary, if_pos hpc, ih]
      by_cases hall : w.all p = true
      · simp [hpc, hall]
      · simp [hpc, hall, isWordBoundary, hb, hc]
    · simp [takeToBoundary, hpc, isWordBoundary, hb, hc]

/-- Classes of word characters look at the word alone. -/
theorem startsWith_word {ps : List (Char → Bool)}
    (hps : ∀ p ∈ ps, ∀ c, p c = true → isWord c = true) (hr : StartsNoWord r) :
    startsWith ps (w ++ r) = startsWith ps w := by
  induction ps generalizing w with
  | nil => simp [startsWith]
  | cons p ps ih =>
    cases w with
    | nil =>
      cases r with
      | nil => rfl
      | cons c cs =>
        have hpc : p c = false := by
          rw [Bool.eq_false_iff]
          intro h
          have := hr c (by simp)
          simp [hps p (by simp) c h] at this
        simp [startsWith, hpc]
    | cons c w => simp [startsWith, ih fun q hq => hps q (by simp [hq])]

theorem length_le_of_startsWith {ps : List (Char → Bool)} (h : startsWith ps w = true) :
    ps.length ≤ w.length := by
  induction ps generalizing w with
  | nil => simp
  | cons p ps ih =>
    cases w with
    | nil => simp [startsWith] at h
    | cons c w =>
      simp only [startsWith, Bool.and_eq_true] at h
      simpa using ih h.2

end Classes

namespace Form

/-- Whether `w` as a whole has the form. -/
def admits (f : Form) (w : List Char) : Bool :=
  startsWith f.leading w && (w.drop f.leading.length).all f.goesOnWith

/-- The form takes word characters only, and at least one. -/
structure InWord (f : Form) : Prop where
  isWordForm : f.isWordForm = true
  leading_ne_nil : f.leading ≠ []
  isWord_of_leading : ∀ p ∈ f.leading, ∀ c, p c = true → isWord c = true
  isWord_of_goesOnWith : ∀ c, f.goesOnWith c = true → isWord c = true

theorem InWord.admits_nil {f : Form} (hf : f.InWord) : f.admits [] = false := by
  obtain ⟨p, ps, hps⟩ := List.exists_cons_of_ne_nil hf.leading_ne_nil
  simp [admits, hps, startsWith]

/-- **Whole words.** At the head of a word, a form of word characters takes the word up to its end
if the word has the form, and nothing otherwise. -/
theorem length?_word {f : Form} (hf : f.InWord) {w r : List Char}
    (hw : ∀ c ∈ w, isWord c = true) (hr : StartsNoWord r) :
    f.length? (w ++ r) = if f.admits w then some w.length else none := by
  unfold length? admits
  simp only [hf.isWordForm, startsWith_word hf.isWord_of_leading hr, if_true]
  by_cases hs : startsWith f.leading w = true
  · have hle := length_le_of_startsWith hs
    have hpos : 0 < f.leading.length := List.length_pos_of_ne_nil hf.leading_ne_nil
    -- The boundary is looked for behind a word character, the last of the leading ones.
    have hne : w.take f.leading.length ≠ [] := by
      intro h
      have := congrArg List.length h
      simp only [List.length_take, List.length_nil] at this
      omega
    rw [List.take_append_of_le_length hle, List.drop_append_of_le_length hle,
      List.getLast?_eq_some_getLast hne,
      takeToBoundary_word hf.isWord_of_goesOnWith
        (hw _ (List.mem_of_mem_take (List.getLast_mem hne)))
        (fun c hc => hw c (List.mem_of_mem_drop hc)) hr]
    by_cases hall : (w.drop f.leading.length).all f.goesOnWith = true
    · simp only [hs, hall, Bool.and_self, if_true, Option.map_some, List.length_drop]
      congr 1
      omega
    · simp [hs, hall]
  · simp [hs]

theorem length?_symbol (s : Char) (cs : List Char) :
    (symbol s).length? cs = if cs.head? = some s then some 1 else none := by
  cases cs <;> simp [length?, leading, startsWith, isWordForm]

/-! ### The word forms of the table -/

theorem inWord_identifier : InWord identifier where
  isWordForm := rfl
  leading_ne_nil := by simp [leading]
  isWord_of_leading := by
    intro p hp c hc
    simp only [leading, List.mem_singleton] at hp
    subst hp
    exact isWord_of_isNameStart (by rw [← isIdentifierStart_eq]; exact hc)
  isWord_of_goesOnWith := by
    intro c hc
    exact isWord_of_isNameRest (by rw [← isIdentifierRest_eq]; exact hc)

theorem inWord_numeral (b : Base) : InWord (numeral b) where
  isWordForm := rfl
  leading_ne_nil := by simp [leading]
  isWord_of_leading := by
    intro p hp c hc
    simp only [leading, List.mem_singleton] at hp
    subst hp
    exact isWord_of_isDigit hc
  isWord_of_goesOnWith := by
    intro c hc
    exact isWord_of_isDigit (b := b) hc

private theorem goesOnWith_identifier : identifier.goesOnWith = isIdentifierRest :=
  rfl

private theorem goesOnWith_numeral (b : Base) : (numeral b).goesOnWith = b.isDigit :=
  rfl

theorem admits_identifier (w : List Char) : identifier.admits w = isName w := by
  cases w with
  | nil => rfl
  | cons c cs =>
    rw [admits, goesOnWith_identifier, funext isIdentifierRest_eq]
    simp [leading, startsWith, isName, isIdentifierStart_eq]

theorem admits_numeral (b : Base) (w : List Char) : (numeral b).admits w = b.isNumeral w := by
  rw [admits, goesOnWith_numeral]
  cases w <;> simp [leading, startsWith, Base.isNumeral]

theorem admits_spelling (spelling w : List Char) :
    (keyword spelling).admits w = true ↔ w.map foldCase = spelling := by
  induction spelling generalizing w with
  | nil => cases w <;> simp [admits, leading, startsWith, goesOnWith]
  | cons letter spelling ih =>
    cases w with
    | nil => simp [admits, leading, startsWith]
    | cons c w =>
      have ih := ih w
      simp only [admits, leading, Bool.and_eq_true, List.length_map] at ih
      rw [List.map_cons, List.cons_eq_cons, ← ih]
      simp only [admits, leading, List.map_cons, startsWith, Bool.and_eq_true, List.length_cons,
        List.length_map, List.drop_succ_cons, decide_eq_true_eq, and_assoc]
      rfl

theorem admits_keyword (b : Base) (w : List Char) :
    (keyword b.keyword.toList).admits w = true ↔ IsKeyword b w := by
  rw [admits_spelling, isKeyword_iff]

theorem inWord_keyword (b : Base) : InWord (keyword b.keyword.toList) where
  isWordForm := rfl
  leading_ne_nil := by cases b <;> simp [leading, Base.keyword]
  isWord_of_leading := by
    intro p hp c hc
    obtain ⟨letter, hmem, rfl⟩ := List.mem_map.mp hp
    have heq : foldCase c = letter := of_decide_eq_true hc
    have hlower := (isLower_of_mem_keyword b letter hmem).1
    rw [← heq] at hlower
    exact isWord_of_isNameStart (by rw [← isIdentifierStart_eq, isIdentifierStart, hlower]; rfl)
  isWord_of_goesOnWith := by
    intro c hc
    cases hc

end Form

/-! ## The table -/

/-- The symbols and their kinds. -/
def symbolKinds : List (Char × Kind) := [
  ('+', .plus), ('-', .minus), ('*', .times), ('/', .divide), ('(', .openParen), (')', .closeParen),
  (';', .semicolon)]

/-- The kind of the symbol `c`, if it is one. -/
def symbolKind? (c : Char) : Option Kind :=
  symbolKinds.lookup c

section Symbols

variable {c d : Char} {kind : Kind}

theorem mem_symbolKinds (h : symbolKind? c = some kind) : (c, kind) ∈ symbolKinds := by
  obtain ⟨l₁, l₂, he, -⟩ := List.lookup_eq_some_iff.mp h
  rw [he]
  simp

theorem symbolKind?_inj (hc : symbolKind? c = some kind) (hd : symbolKind? d = some kind) :
    c = d := by
  have hsymbols : ∀ e ∈ symbolKinds, ∀ f ∈ symbolKinds, e.2 = f.2 → e.1 = f.1 := by decide
  exact hsymbols _ (mem_symbolKinds hc) _ (mem_symbolKinds hd) rfl

theorem ne_endOfLine_of_symbolKind? (h : symbolKind? c = some kind) : kind ≠ .endOfLine := by
  have hsymbols : ∀ e ∈ symbolKinds, e.2 ≠ .endOfLine := by decide
  exact hsymbols _ (mem_symbolKinds h)

theorem ne_invalid_of_symbolKind? (h : symbolKind? c = some kind) : kind ≠ .invalid := by
  have hsymbols : ∀ e ∈ symbolKinds, e.2 ≠ .invalid := by decide
  exact hsymbols _ (mem_symbolKinds h)

theorem isWord_eq_false_of_symbolKind? (h : symbolKind? c = some kind) : isWord c = false := by
  have hsymbols : ∀ e ∈ symbolKinds, isWord e.1 = false := by decide
  exact hsymbols _ (mem_symbolKinds h)

theorem isBlank_eq_false_of_symbolKind? (h : symbolKind? c = some kind) : isBlank c = false := by
  have hsymbols : ∀ e ∈ symbolKinds, isBlank e.1 = false := by decide
  exact hsymbols _ (mem_symbolKinds h)

theorem symbolKind?_eq_none_of_isWord (h : isWord c = true) : symbolKind? c = none := by
  rw [Option.eq_none_iff_forall_ne_some]
  intro kind hkind
  rw [isWord_eq_false_of_symbolKind? hkind] at h
  cases h

end Symbols

namespace Pattern

/-- The patterns of the symbols. -/
def symbols : List Pattern :=
  symbolKinds.map fun (s, kind) => ⟨kind, .symbol s⟩

/-- The patterns of the words. -/
def words : List Pattern := [
  ⟨.keyword .bin, .keyword Base.bin.keyword.toList⟩,
  ⟨.keyword .oct, .keyword Base.oct.keyword.toList⟩,
  ⟨.keyword .hex, .keyword Base.hex.keyword.toList⟩,
  ⟨.identifier, .identifier⟩, ⟨.number .bin, .numeral .bin⟩, ⟨.number .oct, .numeral .oct⟩,
  ⟨.number .hex, .numeral .hex⟩]

theorem table_eq : table = symbols ++ words :=
  rfl

theorem inWord_of_mem_words {p : Pattern} (h : p ∈ words) : p.form.InWord := by
  simp only [words, List.mem_cons, List.not_mem_nil, or_false] at h
  rcases h with rfl | rfl | rfl | rfl | rfl | rfl | rfl
  · exact Form.inWord_keyword .bin
  · exact Form.inWord_keyword .oct
  · exact Form.inWord_keyword .hex
  · exact Form.inWord_identifier
  · exact Form.inWord_numeral .bin
  · exact Form.inWord_numeral .oct
  · exact Form.inWord_numeral .hex

/-- A word is a token iff one of the forms admits it, and the first of them gives the kind. -/
theorem findSome?_words {w : List Char} (hne : w ≠ []) :
    words.findSome? (fun p => if p.form.admits w then some p.kind else none) =
      if isTokenWord w then some (kindOfWord w) else none := by
  have hall (b : Base) : b.isNumeral w = w.all b.isDigit := by
    simp [Base.isNumeral, hne]
  have hhex : isHexadecimal w = w.all Base.hex.isDigit := by
    simp [isHexadecimal, hne, funext isDigit_hex]
  have hmono (b : Base) (h : w.all b.isDigit = true) : w.all Base.hex.isDigit = true := by
    rw [List.all_eq_true] at h ⊢
    exact fun c hc => Base.isDigit_mono (by cases b <;> decide) (h c hc)
  simp only [words, List.findSome?_cons, List.findSome?_nil, Form.admits_keyword,
    Form.admits_identifier, Form.admits_numeral, hall, kindOfWord, isTokenWord, hhex,
    ← isDigit_bin, ← isDigit_oct]
  -- The forms in their order: a keyword is a name too, and a numeral one of every larger base.
  by_cases h₁ : IsKeyword .bin w
  · simp [h₁, isName_of_isKeyword h₁]
  by_cases h₂ : IsKeyword .oct w
  · simp [h₁, h₂, isName_of_isKeyword h₂]
  by_cases h₃ : IsKeyword .hex w
  · simp [h₁, h₂, h₃, isName_of_isKeyword h₃]
  by_cases h₄ : isName w = true
  · simp [h₁, h₂, h₃, h₄]
  by_cases h₅ : w.all Base.bin.isDigit = true
  · simp [h₁, h₂, h₃, h₄, h₅, hmono .bin h₅]
  by_cases h₆ : w.all Base.oct.isDigit = true
  · simp [h₁, h₂, h₃, h₄, h₅, h₆, hmono .oct h₆]
  · by_cases h₇ : w.all Base.hex.isDigit = true <;> simp [h₁, h₂, h₃, h₄, h₅, h₆, h₇]

private theorem findSome?_length?_word {ps : List Pattern} (hps : ∀ p ∈ ps, p.form.InWord)
    {w r : List Char} (hw : ∀ c ∈ w, isWord c = true) (hr : StartsNoWord r) :
    ps.findSome? (fun p => (p.form.length? (w ++ r)).map (p.kind, ·)) =
      (ps.findSome? fun p => if p.form.admits w then some p.kind else none).map (·, w.length) := by
  induction ps with
  | nil => rfl
  | cons p ps ih =>
    have ih := ih fun q hq => hps q (by simp [hq])
    rw [List.findSome?_cons, List.findSome?_cons, Form.length?_word (hps p (by simp)) hw hr, ih]
    by_cases h : p.form.admits w = true <;> simp [h]

/-- The symbols look at one character. -/
theorem findSome?_symbols (cs : List Char) :
    symbols.findSome? (fun p => (p.form.length? cs).map (p.kind, ·)) =
      (cs.head?.bind symbolKind?).map (·, 1) := by
  have hlookup (c : Char) (es : List (Char × Kind)) :
      es.findSome? (fun e => if some c = some e.1 then some (e.2, 1) else none) =
        (es.lookup c).map (·, 1) := by
    induction es with
    | nil => rfl
    | cons e es ih =>
      rw [List.findSome?_cons, ih, List.lookup_cons]
      by_cases h : c = e.1
      · simp [h]
      · simp [h, beq_eq_false_iff_ne.mpr h]
  rw [symbols, List.findSome?_map]
  cases cs with
  | nil => rfl
  | cons c cs =>
    rw [List.head?_cons, Option.bind_some, symbolKind?, ← hlookup]
    congr 1
    funext ⟨s, kind⟩
    rw [Function.comp_apply, Form.length?_symbol, List.head?_cons]
    by_cases h : c = s <;> simp [h]

/-- **Maximal munch.** At the head of a word, the token takes the whole word or there is none. -/
theorem first?_word {w r : List Char} (hne : w ≠ []) (hw : ∀ c ∈ w, isWord c = true)
    (hr : StartsNoWord r) :
    first? table (w ++ r) = if isTokenWord w then some (kindOfWord w, w.length) else none := by
  -- A symbol is no word character, so that only the word forms are left.
  have hsymbol : ((w ++ r).head?.bind symbolKind?) = none := by
    obtain ⟨c, cs, rfl⟩ := List.exists_cons_of_ne_nil hne
    exact symbolKind?_eq_none_of_isWord (hw c (by simp))
  rw [first?, table_eq, List.findSome?_append, findSome?_symbols, hsymbol,
    findSome?_length?_word (fun p hp => inWord_of_mem_words hp) hw hr, findSome?_words hne]
  split <;> rfl

/-- The token at a character that belongs to no word is that of a symbol. -/
theorem first?_of_not_word {c : Char} (hc : isWord c = false) (cs : List Char) :
    first? table (c :: cs) = (symbolKind? c).map (·, 1) := by
  have hwords : words.findSome? (fun p => (p.form.length? (c :: cs)).map (p.kind, ·)) = none := by
    rw [← List.nil_append (c :: cs), findSome?_length?_word (fun p hp => inWord_of_mem_words hp)
      (by simp) (startsNoWord_cons hc), Option.map_eq_none_iff, List.findSome?_eq_none_iff]
    intro p hp
    rw [(inWord_of_mem_words hp).admits_nil]
    rfl
  rw [first?, table_eq, List.findSome?_append, findSome?_symbols, hwords, Option.or_none]
  rfl

end Pattern

end Numeral
