import Numeral.Declaration
import Numeral.Proofs.Lexeme

/-!
# The text of declarations

A line has the form of a declaration iff its text is a keyword, a name and a literal, with blanks in
between, and a semicolon. Words need a blank between them, and behind the semicolon anything may
stand.

- `DeclarationText`: a text of that form, with its parts.
- `DeclarationText.matchesGrammar_iff`: the tokens of a line start with a declaration iff its text
  has the form.
- `DeclarationText.IsJudged`: what becomes of a text of the form.
- `DeclarationText.exists_of_semicolon`: what stands behind a semicolon is without effect.
- `run_decided_by_text`: how the text of a line decides on its verdict.
-/

namespace Numeral

/-! ## Texts of the form -/

/-- A text that has the form of a declaration: a keyword, a name and a literal with gaps around
them, a semicolon, and a rest. -/
structure DeclarationText where
  base : Base
  indent : List Char
  keyword : List Char
  keywordGap : List Char
  name : List Char
  nameGap : List Char
  value : List Char
  valueGap : List Char
  rest : List Char
  isGap_indent : IsGap indent
  isKeyword_keyword : IsKeyword base keyword
  isGap_keywordGap : IsGap keywordGap
  keywordGap_ne_nil : keywordGap ≠ []
  isName_name : isName name = true
  not_isKeyword_name : ∀ b, ¬ IsKeyword b name
  isGap_nameGap : IsGap nameGap
  nameGap_ne_nil : nameGap ≠ []
  isLiteral_value : isLiteral value = true
  isGap_valueGap : IsGap valueGap

section Gaps

variable {gap w r : List Char}

theorem startsNoWord_gap (hgap : IsGap gap) (hne : gap ≠ []) : StartsNoWord (gap ++ r) := by
  obtain ⟨c, gap, rfl⟩ := List.exists_cons_of_ne_nil hne
  exact startsNoWord_cons (isWord_eq_false_of_isBlank (hgap c (by simp)))

theorem startsNoWord_gap_append (hgap : IsGap gap) (hr : StartsNoWord r) :
    StartsNoWord (gap ++ r) := by
  cases gap with
  | nil => exact hr
  | cons c gap => exact startsNoWord_gap hgap (List.cons_ne_nil c gap)

/-- Two words touch nowhere. -/
theorem gap_ne_nil_of_startsNoWord (h : StartsNoWord (gap ++ (w ++ r)))
    (ht : isTokenWord w = true) : gap ≠ [] := by
  rintro rfl
  obtain ⟨c, w, rfl⟩ := List.exists_cons_of_ne_nil (ne_nil_of_isTokenWord ht)
  have hc := isWord_of_isTokenWord ht c (by simp)
  rw [h c (by simp)] at hc
  cases hc

end Gaps

theorem symbolKind?_semicolon : symbolKind? ';' = some .semicolon :=
  rfl

namespace DeclarationText

/-- The characters in front of the semicolon. -/
def front (d : DeclarationText) : List Char :=
  d.indent ++ (d.keyword ++ (d.keywordGap ++ (d.name ++ (d.nameGap ++ (d.value ++ d.valueGap)))))

/-- The characters of the text. -/
def chars (d : DeclarationText) : List Char :=
  d.front ++ ';' :: d.rest

private theorem isTokenWord_keyword (d : DeclarationText) : isTokenWord d.keyword = true := by
  simp [isTokenWord, isName_of_isKeyword d.isKeyword_keyword]

private theorem isTokenWord_name (d : DeclarationText) : isTokenWord d.name = true := by
  simp [isTokenWord, d.isName_name]

theorem isTokenWord_value (d : DeclarationText) : isTokenWord d.value = true :=
  (isLiteral_iff.mp d.isLiteral_value).1

theorem lexemes_chars (d : DeclarationText) :
    ∃ b, lexemes d.chars =
      (.keyword d.base, d.keyword) :: (.identifier, d.name) :: (.number b, d.value) ::
        (.semicolon, [';']) :: lexemes d.rest := by
  obtain ⟨b, hb⟩ : ∃ b, kindOfWord d.value = .number b := by
    rw [← Kind.isNumber_iff, isNumber_kindOfWord, (isLiteral_iff.mp d.isLiteral_value).2]
    rfl
  have hsemicolon : StartsNoWord (';' :: d.rest) :=
    startsNoWord_cons (isWord_eq_false_of_symbolKind? symbolKind?_semicolon)
  refine ⟨b, ?_⟩
  simp only [chars, front, List.append_assoc]
  rw [lexemes_gap d.isGap_indent,
    lexemes_tokenWord (startsNoWord_gap d.isGap_keywordGap d.keywordGap_ne_nil)
      d.isTokenWord_keyword,
    lexemes_gap d.isGap_keywordGap,
    lexemes_tokenWord (startsNoWord_gap d.isGap_nameGap d.nameGap_ne_nil) d.isTokenWord_name,
    lexemes_gap d.isGap_nameGap,
    lexemes_tokenWord (startsNoWord_gap_append d.isGap_valueGap hsemicolon)
      d.isTokenWord_value,
    lexemes_gap d.isGap_valueGap, lexemes_symbol symbolKind?_semicolon,
    kindOfWord_eq_keyword_iff.mpr d.isKeyword_keyword,
    kindOfWord_eq_identifier_iff.mpr ⟨d.isName_name, d.not_isKeyword_name⟩, hb]

private theorem exists_of_lexemes {cs k n v w : List Char} {b b' : Base}
    {ls : List (Kind × List Char)} (h : lexemes cs =
      (.keyword b, k) :: (.identifier, n) :: (.number b', v) :: (.semicolon, w) :: ls) :
    ∃ d : DeclarationText, cs = d.chars ∧ d.base = b ∧ d.keyword = k ∧ d.name = n ∧
      d.value = v := by
  obtain ⟨gap₀, r₀, rfl, hgap₀, hr₀, htk, hk, h₀⟩ := (lexemes_eq_cons_word_iff (.keyword b)).mp h
  obtain ⟨gap₁, r₁, rfl, hgap₁, hr₁, htn, hn, h₁⟩ :=
    (lexemes_eq_cons_word_iff .identifier).mp h₀.symm
  obtain ⟨gap₂, r₂, rfl, hgap₂, hr₂, htv, hv, h₂⟩ :=
    (lexemes_eq_cons_word_iff (.number b')).mp h₁.symm
  obtain ⟨gap₃, r₃, rfl, hgap₃, rfl, rfl⟩ :=
    (lexemes_eq_cons_symbol_iff symbolKind?_semicolon).mp h₂.symm
  obtain ⟨hname, hnot⟩ := kindOfWord_eq_identifier_iff.mp hn
  have hvalue : isName v = false := by
    have := congrArg Kind.isNumber hv
    rw [isNumber_kindOfWord] at this
    simpa [Kind.isNumber] using this
  exact ⟨{ base := b, indent := gap₀, keyword := k, keywordGap := gap₁, name := n, nameGap := gap₂,
           value := v, valueGap := gap₃, rest := r₃, isGap_indent := hgap₀,
           isKeyword_keyword := kindOfWord_eq_keyword_iff.mp hk, isGap_keywordGap := hgap₁,
           keywordGap_ne_nil := gap_ne_nil_of_startsNoWord hr₀ htn, isName_name := hname,
           not_isKeyword_name := hnot, isGap_nameGap := hgap₂,
           nameGap_ne_nil := gap_ne_nil_of_startsNoWord hr₁ htv,
           isLiteral_value := isLiteral_iff.mpr ⟨htv, hvalue⟩, isGap_valueGap := hgap₃ },
    by simp [chars, front], rfl, rfl, rfl, rfl⟩

/-- A text has the form in one way. -/
theorem unique {d d' : DeclarationText} (h : d.chars = d'.chars) :
    d.base = d'.base ∧ d.keyword = d'.keyword ∧ d.name = d'.name ∧ d.value = d'.value := by
  obtain ⟨b, hd⟩ := d.lexemes_chars
  obtain ⟨b', hd'⟩ := d'.lexemes_chars
  rw [h, hd'] at hd
  simp only [List.cons.injEq, Prod.mk.injEq, Kind.keyword.injEq] at hd
  obtain ⟨⟨hbase, hkeyword⟩, ⟨-, hname⟩, ⟨-, hvalue⟩, -⟩ := hd
  exact ⟨hbase.symm, hkeyword.symm, hname.symm, hvalue.symm⟩

/-! ## What stands behind a semicolon -/

/-- The text with another rest. -/
def withRest (d : DeclarationText) (rest : List Char) : DeclarationText :=
  { d with rest := rest }

private theorem semicolon_not_mem_front (d : DeclarationText) : ';' ∉ d.front := by
  have hgap : ∀ gap, IsGap gap → ';' ∉ gap := fun gap hgap hc =>
    absurd (hgap _ hc) (by rw [isBlank_eq_false_of_symbolKind? symbolKind?_semicolon]; simp)
  have hword : ∀ w, isTokenWord w = true → ';' ∉ w := fun w ht hc =>
    absurd (isWord_of_isTokenWord ht _ hc)
      (by rw [isWord_eq_false_of_symbolKind? symbolKind?_semicolon]; simp)
  simp only [front, List.mem_append, not_or]
  exact ⟨hgap _ d.isGap_indent, hword _ d.isTokenWord_keyword, hgap _ d.isGap_keywordGap,
    hword _ d.isTokenWord_name, hgap _ d.isGap_nameGap, hword _ d.isTokenWord_value,
    hgap _ d.isGap_valueGap⟩

@[simp]
theorem chars_withRest (d : DeclarationText) (rest : List Char) :
    (d.withRest rest).chars = d.front ++ ';' :: rest :=
  rfl

/-- What stands behind a semicolon bears neither on the form nor on the parts. -/
theorem exists_of_semicolon {d : DeclarationText} {cs r : List Char}
    (h : d.chars = cs ++ ';' :: r) (other : List Char) :
    ∃ rest, (d.withRest rest).chars = cs ++ ';' :: other := by
  rcases List.append_eq_append_iff.mp h with ⟨as, rfl, has⟩ | ⟨as, hfront, has⟩
  · cases as with
    | nil => exact ⟨other, by simp⟩
    | cons c as =>
      -- The first semicolon comes even earlier.
      rw [List.cons_append, List.cons_eq_cons] at has
      obtain ⟨rfl, -⟩ := has
      exact ⟨as ++ ';' :: other, by simp⟩
  · cases as with
    | nil => exact ⟨other, by simp [hfront]⟩
    | cons c as =>
      rw [List.cons_append, List.cons_eq_cons] at has
      obtain ⟨rfl, -⟩ := has
      exact absurd (by simp [hfront]) d.semicolon_not_mem_front

end DeclarationText

/-! ## Declarations -/

namespace Declaration

/-- Verdicts that differ in nothing but their messages. -/
structure Verdict.Agree (v w : Verdict) : Prop where
  outcome_eq : v.outcome = w.outcome
  name?_eq : v.name? = w.name?
  base?_eq : v.base? = w.base?
  value?_eq : v.value? = w.value?

private theorem Verdict.agree_malformed (span span' : Span) :
    (malformed span).Agree (malformed span') := by
  constructor <;> simp only [outcome, name?, base?, value?, declaration?]

section Tokens

variable {tokens : List Token} {e : Declaration} {k n v w : List Char} {b b' : Base}
  {ls : List (Kind × List Char)}

theorem exists_lexemes_of_ofTokens? (h : ofTokens? tokens = some e) :
    ∃ k b w ls, tokens.map Token.lexeme =
      (.keyword e.base, k) :: (.identifier, e.name.text.toList) ::
        (.number b, e.value.text.toList) :: (.semicolon, w) :: ls := by
  obtain ⟨k, w, t, ts, rfl, hk, hn, hv, hw⟩ := ofTokens?_eq_some_iff.mp h
  obtain ⟨b, hv⟩ := Kind.isNumber_iff.mp hv
  exact ⟨k.text.toList, b, w.text.toList, (t :: ts).map Token.lexeme,
    by simp [Token.lexeme, hk, hn, hv, hw]⟩

private theorem exists_ofTokens?_of_lexemes
    (h : tokens.map Token.lexeme =
      (.keyword b, k) :: (.identifier, n) :: (.number b', v) :: (.semicolon, w) :: ls)
    (hls : ls ≠ []) :
    ∃ e, ofTokens? tokens = some e ∧ e.base = b ∧ e.name.text = String.ofList n ∧
      e.value.text = String.ofList v := by
  obtain ⟨t₀, ts, rfl, ht₀, h⟩ := List.map_eq_cons_iff.mp h
  obtain ⟨t₁, ts, rfl, ht₁, h⟩ := List.map_eq_cons_iff.mp h
  obtain ⟨t₂, ts, rfl, ht₂, h⟩ := List.map_eq_cons_iff.mp h
  obtain ⟨t₃, ts, rfl, ht₃, h⟩ := List.map_eq_cons_iff.mp h
  obtain ⟨t₄, ts, rfl⟩ := List.exists_cons_of_ne_nil
    (fun hts : ts = [] => hls (by rw [← h, hts, List.map_nil]))
  simp only [Token.lexeme, Prod.mk.injEq] at ht₀ ht₁ ht₂ ht₃
  exact ⟨⟨b, t₁, t₂⟩, ofTokens?_eq_some_iff.mpr ⟨t₀, t₃, t₄, ts, rfl, ht₀.1, ht₁.1,
    Kind.isNumber_iff.mpr ⟨b', ht₂.1⟩, ht₃.1⟩, rfl, by rw [← ht₁.2, String.ofList_toList],
    by rw [← ht₂.2, String.ofList_toList]⟩

end Tokens

end Declaration

namespace DeclarationText

variable {text : String}

/-- A line that holds a declaration has the form. -/
theorem exists_of_ofTokens? {e : Declaration}
    (h : Declaration.ofTokens? (tokensOf text) = some e) :
    ∃ d : DeclarationText, text.toList = d.chars := by
  obtain ⟨k, b, w, ls, hlexemes⟩ := Declaration.exists_lexemes_of_ofTokens? h
  rw [lexemes_tokensOf] at hlexemes
  obtain ⟨d, hd, -⟩ := exists_of_lexemes hlexemes
  exact ⟨d, hd⟩

/-- A line that has the form holds a declaration, which is made of its parts. -/
theorem exists_ofTokens? {d : DeclarationText} (h : text.toList = d.chars) :
    ∃ e, Declaration.ofTokens? (tokensOf text) = some e ∧ e.base = d.base ∧
      e.name.text = String.ofList d.name ∧ e.value.text = String.ofList d.value := by
  obtain ⟨b, hlexemes⟩ := d.lexemes_chars
  rw [← h, ← lexemes_tokensOf] at hlexemes
  exact Declaration.exists_ofTokens?_of_lexemes hlexemes (by simp [lexemes])

theorem matchesGrammar_iff :
    Declaration.matchesGrammar (tokensOf text) = true ↔
      ∃ d : DeclarationText, text.toList = d.chars := by
  rw [Declaration.matchesGrammar, Option.isSome_iff_exists]
  constructor
  · rintro ⟨e, he⟩
    exact exists_of_ofTokens? he
  · rintro ⟨d, hd⟩
    obtain ⟨e, he, -⟩ := exists_ofTokens? hd
    exact ⟨e, he⟩

/-! ## Verdicts -/

/-- What becomes of a text of the form in `scope`. A taken name is reported before a character that
is no digit of the base. -/
structure IsJudged (d : DeclarationText) (scope : Scope) (v : Declaration.Verdict)
    (after : Scope) : Prop where
  name?_eq : v.name? = some (String.ofList d.name)
  base?_eq : v.base? = some d.base
  value?_eq : v.value? = some (String.ofList d.value)
  duplicate : String.ofList d.name ∈ scope →
    v.outcome = .rejectedNameOrValue ∧
      v.diagnostics.map (·.code) = [Diagnostic.Code.duplicate.name] ∧ after = scope
  invalidValue : String.ofList d.name ∉ scope → (∃ c ∈ d.value, d.base.isDigit c = false) →
    v.outcome = .rejectedNameOrValue ∧
      v.diagnostics.map (·.code) = [Diagnostic.Code.invalidValue.name] ∧ after = scope
  accepted : String.ofList d.name ∉ scope → (∀ c ∈ d.value, d.base.isDigit c = true) →
    v.outcome = .accepted ∧ v.diagnostics = [] ∧
      after.entries = scope.entries ++ [(String.ofList d.name, d.base)]

variable {d : DeclarationText} {scope : Scope}

theorem isJudged_judge (h : text.toList = d.chars) (scope : Scope) :
    d.IsJudged scope (Declaration.judge (tokensOf text) scope).1
      (Declaration.judge (tokensOf text) scope).2 := by
  obtain ⟨e, he, hbase, hname, hvalue⟩ := exists_ofTokens? h
  have hdeclaration := (Declaration.declaration?_judge (tokensOf text) scope).trans he
  have haccepts : e.base.accepts e.value.text = true ↔
      ∀ c ∈ d.value, d.base.isDigit c = true := by
    rw [Base.accepts_iff, hbase, hvalue, String.toList_ofList, ne_eq, String.ofList_eq_empty_iff]
    exact and_iff_right (ne_nil_of_isTokenWord d.isTokenWord_value)
  refine ⟨?_, ?_, ?_, fun hmem => ?_, fun hmem hvalue => ?_, fun hmem hvalue => ?_⟩
  · rw [Declaration.Verdict.name?, hdeclaration, Option.map_some, hname]
  · rw [Declaration.Verdict.base?, hdeclaration, Option.map_some, hbase]
  · rw [Declaration.Verdict.value?, hdeclaration, Option.map_some, hvalue]
  · rw [Declaration.judge_of_mem he (hname ▸ hmem)]
    exact ⟨rfl, rfl, rfl⟩
  · have hrejects : e.base.accepts e.value.text = false := by
      rw [Bool.eq_false_iff, ne_eq, haccepts]
      obtain ⟨c, hc, hdigit⟩ := hvalue
      exact fun hall => by simp [hall c hc] at hdigit
    rw [Declaration.judge_of_not_accepts he (hname ▸ hmem) hrejects]
    exact ⟨rfl, rfl, rfl⟩
  · rw [Declaration.judge_of_accepts he (hname ▸ hmem) (haccepts.mpr hvalue)]
    exact ⟨rfl, rfl, by rw [Scope.entries_insert, hname, hbase]⟩

theorem judge_of_no_form (h : ∀ d : DeclarationText, text.toList ≠ d.chars) (scope : Scope) :
    Declaration.judge (tokensOf text) scope =
      (.malformed (Declaration.spanOf (tokensOf text)), scope) := by
  refine Declaration.judge_of_none (Option.eq_none_iff_forall_ne_some.mpr fun e he => ?_)
  obtain ⟨d, hd⟩ := exists_of_ofTokens? he
  exact h d hd

theorem IsJudged.withRest {v : Declaration.Verdict} {after : Scope} (h : d.IsJudged scope v after)
    (rest : List Char) : (d.withRest rest).IsJudged scope v after :=
  { h with }

/-- The parts of the text and the scope determine the verdict, its messages apart. -/
theorem IsJudged.unique {v v' : Declaration.Verdict} {after after' : Scope}
    (h : d.IsJudged scope v after) (h' : d.IsJudged scope v' after') :
    v'.Agree v ∧ after' = after := by
  have hrest : v'.outcome = v.outcome ∧ after' = after := by
    by_cases hmem : String.ofList d.name ∈ scope
    · obtain ⟨ho, -, rfl⟩ := h.duplicate hmem
      obtain ⟨ho', -, rfl⟩ := h'.duplicate hmem
      exact ⟨ho'.trans ho.symm, rfl⟩
    · by_cases hvalue : ∀ c ∈ d.value, d.base.isDigit c = true
      · obtain ⟨ho, -, he⟩ := h.accepted hmem hvalue
        obtain ⟨ho', -, he'⟩ := h'.accepted hmem hvalue
        exact ⟨ho'.trans ho.symm, Scope.ext (he'.trans he.symm)⟩
      · have hvalue : ∃ c ∈ d.value, d.base.isDigit c = false := by simpa using hvalue
        obtain ⟨ho, -, rfl⟩ := h.invalidValue hmem hvalue
        obtain ⟨ho', -, rfl⟩ := h'.invalidValue hmem hvalue
        exact ⟨ho'.trans ho.symm, rfl⟩
  exact ⟨⟨hrest.1, h'.name?_eq.trans h.name?_eq.symm, h'.base?_eq.trans h.base?_eq.symm,
    h'.value?_eq.trans h.value?_eq.symm⟩, hrest.2⟩

/-- What stands behind a semicolon bears on nothing but the messages. -/
theorem judge_of_semicolon {text' : String} {cs rest other : List Char}
    (h : text.toList = cs ++ ';' :: rest) (h' : text'.toList = cs ++ ';' :: other)
    (scope : Scope) :
    (Declaration.judge (tokensOf text') scope).1.Agree
        (Declaration.judge (tokensOf text) scope).1 ∧
      (Declaration.judge (tokensOf text') scope).2 =
        (Declaration.judge (tokensOf text) scope).2 := by
  by_cases hform : ∃ d : DeclarationText, text.toList = d.chars
  · obtain ⟨d, hd⟩ := hform
    obtain ⟨r, hr⟩ := exists_of_semicolon (hd.symm.trans h) other
    exact ((isJudged_judge hd scope).withRest r).unique (isJudged_judge (h'.trans hr.symm) scope)
  · have hform' : ∀ d : DeclarationText, text'.toList ≠ d.chars := fun d hd => by
      obtain ⟨r, hr⟩ := exists_of_semicolon (hd.symm.trans h') rest
      exact hform ⟨_, h.trans hr.symm⟩
    rw [judge_of_no_form (fun d hd => hform ⟨d, hd⟩), judge_of_no_form hform']
    exact ⟨Declaration.Verdict.agree_malformed _ _, rfl⟩

end DeclarationText

/-- **Declaration lines.** A line matches the grammar iff its text is a keyword, a name and a
literal with gaps around them, a semicolon and a rest, which it is in one way. Other lines are
rejected and leave the scope alone. A line of the form is rejected for its name if that is taken,
for its value if that has a character which is no digit of the base, and is accepted otherwise; then
the name stands at the end of the scope. What stands behind a semicolon bears on none of this. -/
theorem run_decided_by_text (text : String) (scope : Scope) :
    ∃ r after, Declaration.run text scope = .ok (r, after) ∧
      (Declaration.matchesGrammar r.line.tokens = true ↔
        ∃ d : DeclarationText, text.toList = d.chars) ∧
      ((∀ d : DeclarationText, text.toList ≠ d.chars) →
        r.verdict.outcome = .rejectedGrammar ∧ after = scope) ∧
      (∀ d : DeclarationText, text.toList = d.chars → d.IsJudged scope r.verdict after ∧
        ∀ d' : DeclarationText, text.toList = d'.chars →
          d'.base = d.base ∧ d'.keyword = d.keyword ∧ d'.name = d.name ∧ d'.value = d.value) ∧
      ∀ front rest other : String, text = front ++ ";" ++ rest →
        ∃ r' after', Declaration.run (front ++ ";" ++ other) scope = .ok (r', after') ∧
          r'.verdict.Agree r.verdict ∧ after' = after := by
  refine ⟨_, _, Declaration.run_eq text scope, DeclarationText.matchesGrammar_iff, fun h => ?_,
    fun d hd => ⟨DeclarationText.isJudged_judge hd scope,
      fun d' hd' => DeclarationText.unique (hd'.symm.trans hd)⟩,
    fun front rest other h => ⟨_, _, Declaration.run_eq (front ++ ";" ++ other) scope, ?_⟩⟩
  · rw [DeclarationText.judge_of_no_form h]
    exact ⟨rfl, rfl⟩
  · have htext : text.toList = front.toList ++ ';' :: rest.toList := by simp [h]
    have hother : (front ++ ";" ++ other).toList = front.toList ++ ';' :: other.toList := by simp
    exact DeclarationText.judge_of_semicolon htext hother scope

end Numeral
