import Numeral.Proofs.Tiling
import Numeral.Session

/-!
# Lines without faults

To take a line is to fetch characters and tokens by their indices, to make spans of integers, and to
ask for the base of a keyword, for the place of a new name in a scope and for the first character of
a message. All of this can fail. The steps below are those of the line with every such check
written out, and they give what the plain steps give: no check fails.

- `Fault`: what a check reports.
- `Scanner.IsPlaced`: the invariant that the checks of a scanner rest on.
- `Line.resolveChecked_eq`: reading a line has no fault but the tokens of another line.
- `Declaration.judgeChecked_eq`: judging tokens has none, wherever they come from.
- `Declaration.Run.messagesChecked_eq`: reporting the verdict has none.
-/

namespace Numeral

/-- What can go wrong while a session takes a line. -/
inductive Fault where
  | span (e : SpanError)
  | index (i : Nat)
  | mismatch (e : Line.Mismatch)
  | keyword (e : NotKeyword)
  | name (e : NameTaken)
  | notice (e : Session.NoticeError)
  | feed (e : Session.FeedError)
  deriving DecidableEq, Repr

/-! ## Checks -/

/-- The item at an index, which has to be in range. -/
def itemAt {α : Type} (items : List α) (i : Nat) : Except Fault α :=
  match items[i]? with
  | some a => .ok a
  | none => .error (.index i)

/-- The span between two integers, which have to form one. -/
def spanAt (start stop : Int) : Except Fault Span :=
  (Span.ofInts start stop).mapError .span

theorem bind_of_eq_ok {α β : Type} {x : Except Fault α} {a : α} (h : x = .ok a)
    (f : α → Except Fault β) : (x >>= f) = f a := by
  rw [h]
  rfl

/-- Behind a step of a program that returned comes the rest of the program. -/
theorem run_bind_of_ok {ε σ α β : Type} {x : EStateM ε σ α} {a : α} {m m' : σ}
    (h : x.run m = .ok a m') (f : α → EStateM ε σ β) : (x >>= f).run m = (f a).run m' := by
  rw [EStateM.run_bind, h]

/-- A program stops where a step of it stops. -/
theorem run_bind_of_error {ε σ α β : Type} {x : EStateM ε σ α} {e : ε} {m m' : σ}
    (h : x.run m = .error e m') (f : α → EStateM ε σ β) : (x >>= f).run m = .error e m' := by
  rw [EStateM.run_bind, h]

theorem itemAt_of_getElem? {α : Type} {items : List α} {i : Nat} {a : α} (h : items[i]? = some a) :
    itemAt items i = .ok a := by
  rw [itemAt, h]

theorem spanAt_of_eq {start stop : Int} {s : Span} (hstart : start = s.start)
    (hstop : stop = s.stop) : spanAt start stop = .ok s := by
  rw [spanAt, Span.ofInts_eq_ok_iff.mpr ⟨hstart, hstop⟩]
  rfl

theorem spanAt_empty (offset : Nat) : spanAt offset offset = .ok (.empty offset) :=
  spanAt_of_eq rfl rfl

private theorem spanAt_advance (s : Scanner) (n : Nat) :
    spanAt s.offset (s.advance n).offset = .ok (.ofLength s.offset n) :=
  spanAt_of_eq rfl rfl

/-! ## Reading a line -/

namespace Scanner

variable {s : Scanner}

/-- The characters left are those of the line from the offset on. -/
def IsPlaced (s : Scanner) : Prop :=
  s.rest = s.source.toList.drop s.offset

theorem isPlaced_ofText (source : String) : (ofText source).IsPlaced :=
  rfl

namespace IsPlaced

theorem advance (h : s.IsPlaced) (n : Nat) : (s.advance n).IsPlaced := by
  rw [IsPlaced, rest_advance, h, List.drop_drop]
  rfl

theorem skipBlanks (h : s.IsPlaced) : s.skipBlanks.IsPlaced :=
  h.advance _

theorem step (h : s.IsPlaced) : s.step.2.IsPlaced := by
  unfold Scanner.step
  split
  · exact h
  · split
    · exact h.advance _
    · exact h.advance 1

theorem next (h : s.IsPlaced) : s.next.2.IsPlaced :=
  h.skipBlanks.step

theorem length_le_iff (h : s.IsPlaced) : s.source.length ≤ s.offset ↔ s.rest = [] := by
  rw [h, List.drop_eq_nil_iff, String.length_toList]

private theorem itemAt_source (h : s.IsPlaced) {c : Char} {cs : List Char}
    (hrest : s.rest = c :: cs) : itemAt s.source.toList s.offset = .ok c := by
  refine itemAt_of_getElem? ?_
  rw [← Nat.add_zero s.offset, ← List.getElem?_drop, ← h, hrest]
  rfl

end IsPlaced

/-- Passes over blanks, one by one. -/
def skipBlanksChecked (s : Scanner) : Except Fault Scanner :=
  if s.source.length ≤ s.offset then .ok s
  else do
    let c ← itemAt s.source.toList s.offset
    if isBlank c then skipBlanksChecked (s.advance 1) else .ok s
termination_by s.source.length - s.offset
decreasing_by
  simp only [Scanner.advance]
  omega

/-- The token at the offset reached, with its span made of two integers. -/
def stepChecked (s : Scanner) : Except Fault (Token × Scanner) :=
  if s.source.length ≤ s.offset then do
    let offset ← (offsetOfInt s.offset).mapError .span
    let span ← spanAt offset offset
    return (⟨.endOfLine, "", span⟩, s)
  else
    match Pattern.first? Pattern.table s.rest with
    | some (kind, n) => do
      let span ← spanAt s.offset (s.advance n).offset
      return (⟨kind, String.ofList (s.rest.take n), span⟩, s.advance n)
    | none => do
      let span ← spanAt s.offset (s.advance 1).offset
      let c ← itemAt s.source.toList s.offset
      let report := Diagnostic.Code.invalidCharacter.report span
        (some ("Unrecognized character " ++ quote (String.singleton c) ++ "."))
      return (⟨.invalid, String.singleton c, span⟩,
        { s.advance 1 with diagnostics := s.diagnostics ++ [report] })

/-- The next token. -/
def nextChecked (s : Scanner) : Except Fault (Token × Scanner) := do
  let s ← s.skipBlanksChecked
  s.stepChecked

/-- The next tokens up to the end of the line, at most `n` of them. -/
def takeChecked : Nat → Scanner → Except Fault (List Token × Scanner)
  | 0, s => .ok ([], s)
  | n + 1, s => do
    let (t, s) ← s.nextChecked
    if t.kind = .endOfLine then return ([t], s)
    let (ts, s) ← takeChecked n s
    return (t :: ts, s)

theorem skipBlanksChecked_eq (h : s.IsPlaced) : s.skipBlanksChecked = .ok s.skipBlanks := by
  induction hrest : s.rest generalizing s with
  | nil =>
    rw [skipBlanksChecked, if_pos (h.length_le_iff.mpr hrest)]
    simp [skipBlanks, hrest]
  | cons c cs ih =>
    have hlength : ¬ s.source.length ≤ s.offset := by simp [h.length_le_iff, hrest]
    rw [skipBlanksChecked, if_neg hlength, bind_of_eq_ok (h.itemAt_source hrest)]
    cases hc : isBlank c with
    | true =>
      rw [if_pos rfl, ih (h.advance 1) (by simp [hrest]), skipBlanks_blank hrest hc]
    | false =>
      rw [if_neg Bool.false_ne_true, skipBlanks_of_not_blank hrest hc]

theorem stepChecked_eq (h : s.IsPlaced) : s.stepChecked = .ok s.step := by
  unfold stepChecked step
  cases hrest : s.rest with
  | nil =>
    have hoffset : (offsetOfInt s.offset).mapError Fault.span = .ok s.offset := by
      rw [offsetOfInt, if_neg (by omega)]
      rfl
    rw [if_pos (h.length_le_iff.mpr hrest), bind_of_eq_ok hoffset,
      bind_of_eq_ok (spanAt_empty _)]
    rfl
  | cons c cs =>
    rw [if_neg (by simp [h.length_le_iff, hrest])]
    cases hfirst : Pattern.first? Pattern.table (c :: cs) with
    | none =>
      dsimp only
      rw [bind_of_eq_ok (spanAt_advance _ _),
        bind_of_eq_ok (h.itemAt_source hrest)]
      rfl
    | some p =>
      -- The pattern takes no more characters than there are: its length is that of the text.
      obtain ⟨kind, n⟩ := p
      obtain ⟨w, r, he, rfl, -⟩ := Pattern.exists_append_of_first? hfirst
      dsimp only
      rw [bind_of_eq_ok (spanAt_advance _ _)]
      simp [accept, hrest, he, Token.ofChars, pure, Except.pure]

theorem takeChecked_eq (h : s.IsPlaced) (n : Nat) : s.takeChecked n = .ok (s.take n) := by
  induction n generalizing s with
  | zero => rfl
  | succ n ih =>
    have hnext : s.nextChecked = .ok s.next := by
      rw [nextChecked, bind_of_eq_ok (skipBlanksChecked_eq h), stepChecked_eq h.skipBlanks]
      rfl
    rw [takeChecked, bind_of_eq_ok hnext, take]
    dsimp only
    split
    · rfl
    · rw [bind_of_eq_ok (ih h.next)]
      rfl

end Scanner

/-- Reads `source` into tokens. -/
def Line.ofTextChecked (source : String) : Except Fault Line := do
  let scanner := Scanner.ofText source
  let (tokens, scanner) ← scanner.takeChecked (scanner.rest.length + 1)
  return { source := source, tokens := tokens, diagnostics := scanner.diagnostics }

theorem Line.ofTextChecked_eq (source : String) : ofTextChecked source = .ok (ofText source) := by
  rw [ofTextChecked, bind_of_eq_ok (Scanner.takeChecked_eq (Scanner.isPlaced_ofText source) _)]
  rfl

/-- The line `text`, with the tokens that are `given` if they are its own. -/
def Line.resolveChecked (text : String) (given : Option Line) : Except Fault Line :=
  match given with
  | none => ofTextChecked text
  | some line => if line.source = text then .ok line else .error (.mismatch .otherText)

/-- The tokens of another line are the only fault of reading one. -/
theorem Line.resolveChecked_eq (text : String) (given : Option Line) :
    resolveChecked text given = (resolve text given).mapError .mismatch := by
  cases given with
  | none => exact ofTextChecked_eq text
  | some line =>
    rw [resolveChecked, resolve]
    split <;> rfl

theorem Line.resolveChecked_none (text : String) :
    resolveChecked text none = .ok (ofText text) :=
  resolveChecked_eq text none

/-! ## Judging a declaration -/

namespace Declaration

/-- Whether the tokens start with a declaration, looked at one by one. -/
def matchesGrammarChecked (tokens : List Token) : Except Fault Bool := do
  if tokens.length < minTokens then return false
  let keyword ← itemAt tokens 0
  if !keyword.kind.isKeyword then return false
  let name ← itemAt tokens 1
  if name.kind ≠ .identifier then return false
  let value ← itemAt tokens 2
  if !value.kind.isNumber then return false
  let semicolon ← itemAt tokens 3
  return semicolon.kind = .semicolon

/-- The span from the first to the last of `tokens`, its ends compared as integers. -/
def spanOfChecked (tokens : List Token) : Except Fault Span :=
  if tokens.isEmpty then spanAt 0 0
  else do
    let first ← itemAt tokens 0
    let last ← itemAt tokens (tokens.length - 1)
    spanAt (min (first.span.start : Int) last.span.start)
      (max (first.span.stop : Int) last.span.stop)

/-- Judges tokens. -/
def judgeChecked (tokens : List Token) (scope : Scope) : Except Fault (Verdict × Scope) := do
  if !(← matchesGrammarChecked tokens) then
    let span ← spanOfChecked tokens
    return (.malformed span, scope)
  let keyword ← itemAt tokens 0
  let base ← (Base.ofKeyword keyword.kind).mapError .keyword
  let name ← itemAt tokens 1
  let value ← itemAt tokens 2
  if name.text ∈ scope then return (.duplicate ⟨base, name, value⟩, scope)
  if !base.accepts value.text then return (.invalidValue ⟨base, name, value⟩, scope)
  let scope ← (scope.declare name.text base).mapError .name
  return (.accepted ⟨base, name, value⟩, scope)

variable {tokens : List Token}

theorem exists_cons_of_minTokens_le (h : minTokens ≤ tokens.length) :
    ∃ keyword name value semicolon last rest,
      tokens = keyword :: name :: value :: semicolon :: last :: rest := by
  match tokens, h with
  | keyword :: name :: value :: semicolon :: last :: rest, _ => exact ⟨_, _, _, _, _, _, rfl⟩

theorem matchesGrammar_of_length_lt (h : tokens.length < minTokens) :
    matchesGrammar tokens = false := by
  rw [matchesGrammar, Option.isSome_eq_false_iff, Option.isNone_iff_eq_none,
    Option.eq_none_iff_forall_ne_some]
  intro d hd
  obtain ⟨_, _, _, _, rfl, -⟩ := ofTokens?_eq_some_iff.mp hd
  simp only [List.length_cons, minTokens] at h
  omega

theorem matchesGrammar_cons (keyword name value semicolon last : Token) (rest : List Token) :
    matchesGrammar (keyword :: name :: value :: semicolon :: last :: rest) =
      (keyword.kind.isKeyword && name.kind = .identifier && value.kind.isNumber &&
        semicolon.kind = .semicolon) := by
  rw [matchesGrammar, ofTokens?]
  cases keyword.kind <;> simp [Kind.isKeyword]
  split <;> simp_all

theorem matchesGrammarChecked_eq (tokens : List Token) :
    matchesGrammarChecked tokens = .ok (matchesGrammar tokens) := by
  by_cases h : tokens.length < minTokens
  · rw [matchesGrammarChecked, if_pos h, matchesGrammar_of_length_lt h]
    rfl
  · obtain ⟨keyword, name, value, semicolon, last, rest, rfl⟩ :=
      exists_cons_of_minTokens_le (Nat.not_lt.mp h)
    rw [matchesGrammarChecked, if_neg h, matchesGrammar_cons,
      bind_of_eq_ok (itemAt_of_getElem? (a := keyword) rfl),
      bind_of_eq_ok (itemAt_of_getElem? (a := name) rfl),
      bind_of_eq_ok (itemAt_of_getElem? (a := value) rfl),
      bind_of_eq_ok (itemAt_of_getElem? (a := semicolon) rfl)]
    split_ifs <;> simp_all [pure, Except.pure]

theorem spanOfChecked_eq (tokens : List Token) : spanOfChecked tokens = .ok (spanOf tokens) := by
  cases tokens with
  | nil => exact spanAt_empty 0
  | cons t ts =>
    have hlast : itemAt (t :: ts) ((t :: ts).length - 1) =
        .ok ((t :: ts).getLast (List.cons_ne_nil t ts)) :=
      itemAt_of_getElem? (by rw [← List.getLast?_eq_getElem?, List.getLast?_eq_some_getLast])
    rw [spanOfChecked, if_neg (by simp), bind_of_eq_ok (itemAt_of_getElem? (a := t) rfl),
      bind_of_eq_ok hlast]
    exact spanAt_of_eq (by simp [spanOf, Span.cover]) (by simp [spanOf, Span.cover])

theorem judgeChecked_eq (tokens : List Token) (scope : Scope) :
    judgeChecked tokens scope = .ok (judge tokens scope) := by
  rw [judgeChecked, bind_of_eq_ok (matchesGrammarChecked_eq tokens), matchesGrammar]
  cases h : ofTokens? tokens with
  | none =>
    rw [if_pos (by simp), bind_of_eq_ok (spanOfChecked_eq tokens), judge_of_none h]
    rfl
  | some d =>
    -- The grammar has settled the first three tokens, and the kind of the first among them.
    obtain ⟨keyword, semicolon, last, rest, htokens, hkeyword, -⟩ := ofTokens?_eq_some_iff.mp h
    have hbase : (Base.ofKeyword keyword.kind).mapError Fault.keyword = .ok d.base := by
      rw [hkeyword]
      rfl
    have hitems : itemAt tokens 0 = .ok keyword ∧ itemAt tokens 1 = .ok d.name ∧
        itemAt tokens 2 = .ok d.value := by
      rw [htokens]
      exact ⟨rfl, rfl, rfl⟩
    rw [if_neg (by simp), bind_of_eq_ok hitems.1, bind_of_eq_ok hbase, bind_of_eq_ok hitems.2.1,
      bind_of_eq_ok hitems.2.2]
    by_cases hmem : d.name.text ∈ scope
    · rw [if_pos hmem, judge_of_mem h hmem]
      rfl
    · rw [if_neg hmem]
      cases hvalue : d.base.accepts d.value.text with
      | false =>
        rw [judge_of_not_accepts h hmem hvalue]
        rfl
      | true =>
        have hdeclare : (scope.declare d.name.text d.base).mapError Fault.name =
            .ok (scope.insert d.name.text d.base hmem) := by
          rw [Scope.declare_eq_ok_iff.mpr ⟨hmem, Scope.entries_insert _ _ _ hmem⟩]
          rfl
        rw [judge_of_accepts h hmem hvalue, if_neg (by simp), bind_of_eq_ok hdeclare]
        rfl

/-- The messages about a declaration, made of messages that have to have a first character. -/
def Run.messagesChecked (r : Run) : Except Fault (List String) :=
  (Session.Notice.declaration? r.verdict.outcome r.verdict.name? r.verdict.diagnostics).mapError
    .notice

theorem Verdict.message_ne_empty {v : Verdict} {d : Diagnostic}
    (h : d ∈ Session.Notice.invalidValues v.diagnostics) : d.message ≠ "" := by
  obtain ⟨hd, hcode⟩ := List.mem_filter.mp h
  have hcode := of_decide_eq_true hcode
  cases v with
  | accepted => simp [diagnostics] at hd
  | malformed | duplicate =>
    rw [List.mem_singleton.mp hd] at hcode
    simp [Diagnostic.Code.report, Diagnostic.Code.name] at hcode
  | invalidValue =>
    rw [List.mem_singleton.mp hd]
    simp [Diagnostic.Code.report]

/-- The messages taken up are those of wrong values, which name the value. -/
theorem Run.messagesChecked_eq (r : Run) : r.messagesChecked = .ok r.messages := by
  have hany : (Session.Notice.invalidValues r.verdict.diagnostics).any (·.message = "") = false :=
    List.any_eq_false.mpr fun d hd => by simpa using Verdict.message_ne_empty hd
  rw [messagesChecked, Session.Notice.declaration?, if_neg (by simp [hany])]
  rfl

end Declaration

end Numeral
