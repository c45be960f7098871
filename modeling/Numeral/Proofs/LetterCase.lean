import Numeral.Proofs.Tiling

/-!
# The case of letters

Case is that of ASCII letters here. No test that the patterns make tells the two cases of a letter
apart, so that a line and the same line in small letters have the same tokens but for the case of
their texts. Two lines that differ in case alone are compared through their small letters.

- `IgnoresCase`: what a test of characters has to satisfy; all tests of the patterns do.
- `Pattern.first?_map_toLower`: the token at the head of a text.
- `Scanner.IsLowered`: two scanners in front of the same characters, those of the second in small
  letters. One step keeps it (`Scanner.IsLowered.step`), so that draining does.
- `tokensOf_map_toLower`: the tokens of a line in small letters.
- `Declaration.ofTokens?_map_lowered`, `Base.accepts_map_toLower`: the declaration that tokens in
  small letters hold, and the values that a base accepts.
- `case_without_effect`: two lines that differ in case alone.
-/

namespace Numeral

/-! ## Characters -/

section Characters

variable {α : Type} {c : Char}

private theorem toNat_toLower (c : Char) :
    c.toLower.toNat = if 0x41 ≤ c.toNat ∧ c.toNat ≤ 0x5A then c.toNat + 32 else c.toNat := by
  have hupper : (c.val ≥ 'A'.val ∧ c.val ≤ 'Z'.val) ↔ 0x41 ≤ c.toNat ∧ c.toNat ≤ 0x5A := by
    simp [UInt32.le_iff_toNat_le]
  by_cases h : 0x41 ≤ c.toNat ∧ c.toNat ≤ 0x5A
  · have hdistance : ('a'.val - 'A'.val).toNat = 32 := rfl
    rw [if_pos h, Char.toLower, dif_pos (hupper.mpr h), ← Char.toNat_val, UInt32.toNat_add,
      Char.toNat_val]
    omega
  · rw [if_neg h, Char.toLower, dif_neg (mt hupper.mp h)]

/-- Only letters are changed, and they stay letters. -/
private theorem toLower_eq_or (c : Char) :
    c.toLower = c ∨ c.isAlpha = true ∧ c.toLower.isAlpha = true := by
  rw [← Char.toNat_inj, isAlpha_iff_toNat, isAlpha_iff_toNat, toNat_toLower]
  split <;> omega

/-- The function `p` gives the same for a letter and its small letter. -/
def IgnoresCase (p : Char → α) : Prop :=
  ∀ c, p c.toLower = p c

/-- What takes all letters for the same ignores their case. -/
theorem ignoresCase_of_isAlpha {p : Char → α} (value : α)
    (h : ∀ c, c.isAlpha = true → p c = value) : IgnoresCase p := by
  intro c
  rcases toLower_eq_or c with hc | ⟨hc, hlower⟩
  · rw [hc]
  · rw [h c hc, h _ hlower]

private theorem isWord_of_isAlpha (h : c.isAlpha = true) : isWord c = true :=
  isWord_of_isAlphanum (by simp [Char.isAlphanum, h])

theorem ignoresCase_isWord : IgnoresCase isWord :=
  ignoresCase_of_isAlpha true fun _ => isWord_of_isAlpha

theorem ignoresCase_isBlank : IgnoresCase isBlank :=
  ignoresCase_of_isAlpha false fun _ hc => isBlank_eq_false_of_isWord (isWord_of_isAlpha hc)

theorem ignoresCase_isDigit : IgnoresCase Char.isDigit := by
  refine ignoresCase_of_isAlpha false fun c hc => ?_
  rw [Bool.eq_false_iff, ne_eq, isDigit_iff_toNat]
  rw [isAlpha_iff_toNat] at hc
  omega

theorem ignoresCase_eq {s : Char} (hs : s.isAlpha = false) :
    IgnoresCase fun c => decide (c = s) := by
  refine ignoresCase_of_isAlpha false fun c hc => decide_eq_false ?_
  rintro rfl
  rw [hs] at hc
  cases hc

private theorem foldCase_of_isAlpha (h : c.isAlpha = true) : foldCase c = c.toLower := by
  have hfolded : c ∉ foldedLetters := by
    intro hmem
    simp only [foldedLetters, List.mem_cons, List.not_mem_nil, or_false] at hmem
    rcases hmem with rfl | rfl | rfl | rfl <;> revert h <;> decide
  simp only [foldedLetters, List.mem_cons, List.not_mem_nil, or_false, not_or] at hfolded
  simp [foldCase, hfolded]

theorem ignoresCase_foldCase : IgnoresCase foldCase := by
  intro c
  rcases toLower_eq_or c with hc | ⟨hc, hlower⟩
  · rw [hc]
  · have htwice : c.toLower.toLower = c.toLower := by
      rw [← Char.toNat_inj, toNat_toLower c.toLower, toNat_toLower]
      split_ifs <;> omega
    rw [foldCase_of_isAlpha hlower, foldCase_of_isAlpha hc, htwice]

theorem ignoresCase_isIdentifierStart : IgnoresCase isIdentifierStart := by
  intro c
  have hunderscore : decide (c.toLower = '_') = decide (c = '_') := ignoresCase_eq (by decide) c
  rw [isIdentifierStart, isIdentifierStart, ignoresCase_foldCase c, hunderscore]

theorem ignoresCase_isIdentifierRest : IgnoresCase isIdentifierRest := by
  intro c
  rw [isIdentifierRest, isIdentifierRest, ignoresCase_isIdentifierStart c, ignoresCase_isDigit c]

/-- Both cases of a letter are the same digit, where it is one. -/
theorem Base.ignoresCase_isDigit (b : Base) : IgnoresCase b.isDigit := by
  intro c
  rw [Bool.eq_iff_iff]
  cases b
  all_goals
    simp only [isDigit, Bool.or_eq_true, Bool.and_eq_true, decide_eq_true_eq, Char.le_def,
      UInt32.le_iff_toNat_le, Char.toNat_val, Char.reduceToNat, toNat_toLower]
    split <;> omega

end Characters

/-! ## Patterns -/

section Patterns

variable {p : Char → Bool} {ps : List (Char → Bool)}

private theorem startsWith_map_toLower (hps : ∀ p ∈ ps, IgnoresCase p) (cs : List Char) :
    startsWith ps (cs.map Char.toLower) = startsWith ps cs := by
  induction ps generalizing cs with
  | nil => simp [startsWith]
  | cons p ps ih =>
    cases cs with
    | nil => rfl
    | cons c cs =>
      rw [List.map_cons, startsWith, startsWith, hps p (by simp) c,
        ih fun q hq => hps q (by simp [hq])]

private theorem isWordBoundary_map_toLower (before after : Option Char) :
    isWordBoundary (before.map Char.toLower) (after.map Char.toLower) =
      isWordBoundary before after := by
  simp only [isWordBoundary, Option.any_map, ignoresCase_isWord _]

private theorem takeToBoundary_map_toLower (hp : IgnoresCase p) (before : Option Char)
    (cs : List Char) :
    takeToBoundary p (before.map Char.toLower) (cs.map Char.toLower) =
      takeToBoundary p before cs := by
  induction cs generalizing before with
  | nil =>
    have hboundary := isWordBoundary_map_toLower before none
    rw [Option.map_none] at hboundary
    rw [List.map_nil, takeToBoundary, takeToBoundary, hboundary]
  | cons c cs ih =>
    have hboundary := isWordBoundary_map_toLower before (some c)
    have ih := ih (some c)
    rw [Option.map_some] at hboundary ih
    rw [List.map_cons, takeToBoundary, takeToBoundary, hboundary, hp c, ih]

namespace Form

/-- The form makes no test that tells the cases of a letter apart. -/
structure IsCaseFree (f : Form) : Prop where
  leading : ∀ p ∈ f.leading, IgnoresCase p
  goesOnWith : IgnoresCase f.goesOnWith

theorem isCaseFree_symbol {s : Char} (hs : s.isAlpha = false) : (symbol s).IsCaseFree where
  leading p hp := by
    rw [List.mem_singleton.mp hp]
    exact ignoresCase_eq hs
  goesOnWith _ := rfl

theorem isCaseFree_keyword (spelling : List Char) : (keyword spelling).IsCaseFree where
  leading p hp := by
    obtain ⟨letter, -, rfl⟩ := List.mem_map.mp hp
    exact fun c => congrArg (fun d => decide (d = letter)) (ignoresCase_foldCase c)
  goesOnWith _ := rfl

theorem isCaseFree_identifier : identifier.IsCaseFree where
  leading p hp := by
    rw [List.mem_singleton.mp hp]
    exact ignoresCase_isIdentifierStart
  goesOnWith := ignoresCase_isIdentifierRest

theorem isCaseFree_numeral (b : Base) : (numeral b).IsCaseFree where
  leading p hp := by
    rw [List.mem_singleton.mp hp]
    exact b.ignoresCase_isDigit
  goesOnWith := b.ignoresCase_isDigit

theorem IsCaseFree.length?_map_toLower {f : Form} (hf : f.IsCaseFree) (cs : List Char) :
    f.length? (cs.map Char.toLower) = f.length? cs := by
  simp only [length?]
  rw [startsWith_map_toLower hf.leading, ← List.map_take, ← List.map_drop, List.getLast?_map,
    takeToBoundary_map_toLower hf.goesOnWith]

end Form

namespace Pattern

theorem isCaseFree_of_mem_table {p : Pattern} (h : p ∈ table) : p.form.IsCaseFree := by
  rw [table_eq, List.mem_append] at h
  rcases h with h | h
  · obtain ⟨⟨s, kind⟩, he, rfl⟩ := List.mem_map.mp h
    have hsymbols : ∀ e ∈ symbolKinds, e.1.isAlpha = false := by decide
    exact Form.isCaseFree_symbol (hsymbols _ he)
  · simp only [words, List.mem_cons, List.not_mem_nil, or_false] at h
    rcases h with rfl | rfl | rfl | rfl | rfl | rfl | rfl
    · exact Form.isCaseFree_keyword _
    · exact Form.isCaseFree_keyword _
    · exact Form.isCaseFree_keyword _
    · exact Form.isCaseFree_identifier
    · exact Form.isCaseFree_numeral .bin
    · exact Form.isCaseFree_numeral .oct
    · exact Form.isCaseFree_numeral .hex

theorem first?_map_toLower {patterns : List Pattern} (h : ∀ p ∈ patterns, p.form.IsCaseFree)
    (cs : List Char) : first? patterns (cs.map Char.toLower) = first? patterns cs := by
  unfold first?
  induction patterns with
  | nil => rfl
  | cons p patterns ih =>
    rw [List.findSome?_cons, List.findSome?_cons, (h p (by simp)).length?_map_toLower,
      ih fun q hq => h q (by simp [hq])]

end Pattern

end Patterns

/-! ## Tokens -/

/-- The token with its text in small letters. -/
def Token.lowered (t : Token) : Token :=
  { t with text := t.text.map Char.toLower }

private theorem Token.lowered_endAt (offset : Nat) :
    (Token.endAt offset).lowered = .endAt offset := by
  simp [lowered, endAt]

private theorem Token.lowered_ofChars (kind : Kind) (offset : Nat) (cs : List Char) :
    (Token.ofChars kind offset cs).lowered = .ofChars kind offset (cs.map Char.toLower) := by
  have htext : (String.ofList cs).map Char.toLower = String.ofList (cs.map Char.toLower) := by
    rw [← String.toList_inj, String.toList_map, String.toList_ofList, String.toList_ofList]
  rw [lowered, ofChars, ofChars, List.length_map, htext]

/-- Both scanners stand at the same offset in front of the same characters. Those of the second one
are in small letters. -/
structure Scanner.IsLowered (s s' : Scanner) : Prop where
  rest_eq : s'.rest = s.rest.map Char.toLower
  offset_eq : s'.offset = s.offset

namespace Scanner.IsLowered

variable {s s' : Scanner}

theorem advance (h : IsLowered s s') (n : Nat) : IsLowered (s.advance n) (s'.advance n) where
  rest_eq := by rw [rest_advance, rest_advance, h.rest_eq, List.map_drop]
  offset_eq := by rw [Scanner.advance, Scanner.advance, h.offset_eq]

theorem skipBlanks (h : IsLowered s s') : IsLowered s.skipBlanks s'.skipBlanks := by
  have hblank : isBlank ∘ Char.toLower = isBlank := funext ignoresCase_isBlank
  rw [Scanner.skipBlanks, Scanner.skipBlanks, h.rest_eq, List.takeWhile_map, List.length_map,
    hblank]
  exact h.advance _

/-- A step makes the same token of small letters, but for its text. -/
theorem step (h : IsLowered s s') :
    s'.step.1 = s.step.1.lowered ∧ IsLowered s.step.2 s'.step.2 := by
  have hfirst := Pattern.first?_map_toLower (fun _ => Pattern.isCaseFree_of_mem_table) s.rest
  unfold Scanner.step
  rw [h.rest_eq, hfirst]
  cases hrest : s.rest with
  | nil =>
    refine ⟨?_, h⟩
    rw [Token.lowered_endAt, ← h.offset_eq]
    rfl
  | cons c cs =>
    rw [List.map_cons]
    dsimp only
    split
    · refine ⟨?_, h.advance _⟩
      rw [accept, accept, Token.lowered_ofChars, h.offset_eq, h.rest_eq, List.map_take]
    · refine ⟨?_, ⟨(h.advance 1).rest_eq, (h.advance 1).offset_eq⟩⟩
      rw [reject, reject, Token.lowered_ofChars, h.offset_eq]
      rfl

theorem next (h : IsLowered s s') : s'.next.1 = s.next.1.lowered ∧ IsLowered s.next.2 s'.next.2 :=
  h.skipBlanks.step

theorem drain (h : IsLowered s s') : s'.drain.1 = s.drain.1.map Token.lowered :=
  drain_eq_map (fun _ => rfl) (fun _ _ => next) (by rw [h.rest_eq, List.length_map]) h

end Scanner.IsLowered

/-- **Small letters.** A line in small letters has the tokens of the line, their texts in small
letters. -/
theorem tokensOf_map_toLower (text : String) :
    tokensOf (text.map Char.toLower) = (tokensOf text).map Token.lowered :=
  Scanner.IsLowered.drain ⟨String.toList_map, rfl⟩

/-! ## Declarations -/

/-- Both cases of the letters of a value are accepted by the same bases. -/
theorem Base.accepts_map_toLower (b : Base) (literal : String) :
    b.accepts (literal.map Char.toLower) = b.accepts literal := by
  have hdigit : b.isDigit ∘ Char.toLower = b.isDigit := funext b.ignoresCase_isDigit
  rw [accepts, accepts, isNumeral, isNumeral, String.toList_map, List.isEmpty_map, List.all_map,
    hdigit]

namespace Declaration

variable {tokens others : List Token} {d : Declaration}

/-- The declaration with its name and value in small letters. -/
def lowered (d : Declaration) : Declaration where
  base := d.base
  name := d.name.lowered
  value := d.value.lowered

theorem ofTokens?_map_lowered (tokens : List Token) :
    ofTokens? (tokens.map Token.lowered) = (ofTokens? tokens).map lowered := by
  match tokens with
  | [] | [_] | [_, _] | [_, _, _] | [_, _, _, _] => rfl
  | keyword :: name :: value :: semicolon :: last :: rest =>
    simp only [List.map_cons, ofTokens?, Token.lowered]
    cases keyword.kind with
    | keyword base =>
      dsimp only
      split <;> rfl
    | _ => rfl

/-- The first identifier of a declaration is its name. -/
theorem head?_filter_of_ofTokens? (h : ofTokens? tokens = some d) :
    (tokens.filter (·.kind = .identifier)).head? = some d.name := by
  obtain ⟨_, _, _, _, rfl, hkeyword, hname, -⟩ := ofTokens?_eq_some_iff.mp h
  simp [hkeyword, hname]

/-- Tokens that differ in case alone, and not in their identifiers, are judged alike. -/
theorem judge_of_map_lowered_eq (h : tokens.map Token.lowered = others.map Token.lowered)
    (hnames : (tokens.filter (·.kind = .identifier)).map (·.text) =
      (others.filter (·.kind = .identifier)).map (·.text)) (scope : Scope) :
    (judge others scope).1.outcome = (judge tokens scope).1.outcome ∧
      (judge others scope).1.name? = (judge tokens scope).1.name? ∧
      (judge others scope).1.base? = (judge tokens scope).1.base? ∧
      (judge others scope).2 = (judge tokens scope).2 := by
  have hform := congrArg ofTokens? h
  rw [ofTokens?_map_lowered, ofTokens?_map_lowered] at hform
  cases hd : ofTokens? tokens with
  | none =>
    have he : ofTokens? others = none := by simpa [hd] using hform.symm
    rw [judge_of_none hd, judge_of_none he]
    exact ⟨rfl, rfl, rfl, rfl⟩
  | some d =>
    obtain ⟨e, he, hlowered⟩ : ∃ e, ofTokens? others = some e ∧ e.lowered = d.lowered := by
      simpa [hd] using hform.symm
    have hbase : e.base = d.base := (congrArg Declaration.base hlowered :)
    have hname : e.name.text = d.name.text := by
      have hhead := congrArg List.head? hnames
      rw [List.head?_map, List.head?_map, head?_filter_of_ofTokens? hd,
        head?_filter_of_ofTokens? he] at hhead
      exact (Option.some.inj hhead).symm
    have hvalue : e.base.accepts e.value.text = d.base.accepts d.value.text := by
      have htext : e.value.text.map Char.toLower = d.value.text.map Char.toLower :=
        congrArg Token.text (congrArg Declaration.value hlowered)
      rw [hbase, ← Base.accepts_map_toLower, htext, Base.accepts_map_toLower]
    -- The name, the base and whether it accepts the value agree, so both take the same branch.
    have hjudged : (judge others scope).1.outcome = (judge tokens scope).1.outcome ∧
        (judge others scope).2 = (judge tokens scope).2 := by
      by_cases hmem : d.name.text ∈ scope
      · rw [judge_of_mem hd hmem, judge_of_mem he (hname ▸ hmem)]
        exact ⟨rfl, rfl⟩
      · cases haccepts : d.base.accepts d.value.text with
        | false =>
          rw [judge_of_not_accepts hd hmem haccepts,
            judge_of_not_accepts he (hname ▸ hmem) (hvalue.trans haccepts)]
          exact ⟨rfl, rfl⟩
        | true =>
          rw [judge_of_accepts hd hmem haccepts,
            judge_of_accepts he (hname ▸ hmem) (hvalue.trans haccepts)]
          refine ⟨rfl, Scope.ext ?_⟩
          rw [Scope.entries_insert, Scope.entries_insert, hname, hbase]
    refine ⟨hjudged.1, ?_, ?_, hjudged.2⟩
    · rw [Verdict.name?, Verdict.name?, declaration?_judge, declaration?_judge, hd, he,
        Option.map_some, Option.map_some, hname]
    · rw [Verdict.base?, Verdict.base?, declaration?_judge, declaration?_judge, hd, he,
        Option.map_some, Option.map_some, hbase]

end Declaration

/-! ## Two lines -/

/-- The texts have the same characters but for the case of letters. -/
def AgreeUpToCase (a b : String) : Prop :=
  List.Forall₂ (fun c d : Char => c.toLower = d.toLower) a.toList b.toList

instance (a b : String) : Decidable (AgreeUpToCase a b) :=
  inferInstanceAs (Decidable (List.Forall₂ _ _ _))

/-- The tokens are the same but for the case of letters in their texts. -/
structure Token.IsRecased (t u : Token) : Prop where
  kind_eq : u.kind = t.kind
  span_eq : u.span = t.span
  text : AgreeUpToCase t.text u.text

private theorem map_eq_map_iff_forall₂ {α β : Type} {f : α → β} {l l' : List α} :
    l.map f = l'.map f ↔ List.Forall₂ (fun a b => f a = f b) l l' := by
  rw [← List.forall₂_eq_eq_eq, List.forall₂_map_left_iff, List.forall₂_map_right_iff]

theorem agreeUpToCase_iff {a b : String} :
    AgreeUpToCase a b ↔ a.map Char.toLower = b.map Char.toLower := by
  rw [AgreeUpToCase, ← map_eq_map_iff_forall₂, ← String.toList_map, ← String.toList_map,
    String.toList_inj]

theorem Token.IsRecased.of_lowered_eq {t u : Token} (h : t.lowered = u.lowered) :
    t.IsRecased u where
  kind_eq := (congrArg Token.kind h).symm
  span_eq := (congrArg Token.span h).symm
  text := agreeUpToCase_iff.mpr (congrArg Token.text h)

private theorem map_span_complaints_lowered (tokens : List Token) :
    (complaints (tokens.map Token.lowered)).map (fun d => (d.code, d.span)) =
      (complaints tokens).map fun d => (d.code, d.span) := by
  rw [map_span_complaints, map_span_complaints, List.filter_map, List.map_map]
  rfl

/-- **The case of letters.** Two lines that differ in the case of letters alone have the same tokens
but for the case of their texts, with reports at the same spans. If their identifiers are the same,
they are judged alike as declarations, whatever the case of the keyword and of the value is. -/
theorem case_without_effect {a b : String} (h : AgreeUpToCase a b) :
    List.Forall₂ Token.IsRecased (tokensOf a) (tokensOf b) ∧
    (Line.ofText a).diagnostics.map (fun d => (d.code, d.span)) =
      (Line.ofText b).diagnostics.map (fun d => (d.code, d.span)) ∧
    ((Line.ofText a).identifiers.map (·.text) = (Line.ofText b).identifiers.map (·.text) →
      ∀ scope, ∃ r after r' after',
        Declaration.run a scope = .ok (r, after) ∧ Declaration.run b scope = .ok (r', after') ∧
          r'.verdict.outcome = r.verdict.outcome ∧ r'.verdict.name? = r.verdict.name? ∧
          r'.verdict.base? = r.verdict.base? ∧ after' = after) := by
  have htokens : (tokensOf a).map Token.lowered = (tokensOf b).map Token.lowered := by
    rw [← tokensOf_map_toLower, ← tokensOf_map_toLower, agreeUpToCase_iff.mp h]
  refine ⟨?_, ?_, fun hnames scope => ?_⟩
  · exact (map_eq_map_iff_forall₂.mp htokens).imp fun _ _ => Token.IsRecased.of_lowered_eq
  · rw [Line.diagnostics_ofText, Line.diagnostics_ofText, ← map_span_complaints_lowered, htokens,
      map_span_complaints_lowered]
  · exact ⟨_, _, _, _, Declaration.run_eq a scope, Declaration.run_eq b scope,
      Declaration.judge_of_map_lowered_eq htokens hnames scope⟩

theorem case_without_effect_invalid :
    AgreeUpToCase "Hex nX 0aF;É§" "hEX nX 0Af;É§" ∧
      (Line.ofText "Hex nX 0aF;É§").identifiers.map (·.text) =
        (Line.ofText "hEX nX 0Af;É§").identifiers.map (·.text) ∧
      List.Forall₂ Token.IsRecased (tokensOf "Hex nX 0aF;É§") (tokensOf "hEX nX 0Af;É§") ∧
      (Line.ofText "hEX nX 0Af;É§").diagnostics.map (fun d => (d.code, d.span)) =
        [(Diagnostic.Code.invalidCharacter.name, .ofLength 11 1),
          (Diagnostic.Code.invalidCharacter.name, .ofLength 12 1)] ∧
      ∃ r after, Declaration.run "hEX nX 0Af;É§" .empty = .ok (r, after) ∧
        r.verdict.outcome = .accepted ∧ after.entries = [("nX", .hex)] := by
  have hagree : AgreeUpToCase "Hex nX 0aF;É§" "hEX nX 0Af;É§" := by decide +kernel
  have hnames : (Line.ofText "Hex nX 0aF;É§").identifiers.map (·.text) =
      (Line.ofText "hEX nX 0Af;É§").identifiers.map (·.text) := by decide +kernel
  obtain ⟨htokens, hreports, hjudged⟩ := case_without_effect hagree
  refine ⟨hagree, hnames, htokens, ?_, ?_⟩
  · rw [← hreports]
    decide +kernel
  · obtain ⟨r, after, r', after', hrun, hrun', houtcome, -, -, hafter⟩ := hjudged hnames .empty
    rw [Declaration.run_eq] at hrun
    cases hrun
    refine ⟨r', after', hrun', houtcome.trans ?_, ?_⟩
    · decide +kernel
    · rw [hafter]
      decide +kernel

end Numeral
