import Mathlib.Data.Stream.Init
import Numeral.Proofs.Separator
import Numeral.Proofs.Tiling

/-!
# Scanners that are called in any way

A caller can ask a scanner for the next token or for all tokens that are left, in any order and as
often as it likes. Whatever it asks for, it is given the next tokens of one stream: those of the
line, and behind them the end of the line over and over.

- `Scanner.stream`: the tokens that a scanner gives when it is asked for the next one without end.
- `Scanner.stream_drain`: draining gives the tokens of the stream up to the end of the line.
- `Scanner.HasGiven`: what holds of a scanner that has given these tokens. Every call keeps it
  (`Scanner.HasGiven.call`), so that it holds behind any calls (`Scanner.hasGiven_afterCalls`).
- `calls_give_one_stream`: what any calls give, and what they report.
-/

namespace Numeral

namespace Scanner

variable {s : Scanner} {text : String} {given : List Token}

/-- What holds of a scanner whose next token is the end of the line, and of one whose scanner behind
the next token it holds of, holds of every scanner. Every token but the end takes a character. -/
@[elab_as_elim]
theorem next_induction {motive : Scanner → Prop}
    (atEnd : ∀ s : Scanner, s.next.1.kind = .endOfLine → motive s)
    (more : ∀ s : Scanner, s.next.1.kind ≠ .endOfLine → motive s.next.2 → motive s)
    (s : Scanner) : motive s := by
  induction hn : s.rest.length using Nat.strong_induction_on generalizing s with
  | _ n ih =>
    by_cases hend : s.next.1.kind = .endOfLine
    · exact atEnd s hend
    · exact more s hend (ih _ (hn ▸ length_rest_next_lt hend) s.next.2 rfl)

/-! ## The offset of the end -/

/-- The offset behind the last character of the line. -/
def stop (s : Scanner) : Nat :=
  s.offset + s.rest.length

theorem stop_advance {n : Nat} (h : n ≤ s.rest.length) : (s.advance n).stop = s.stop := by
  simp only [stop, advance, List.length_drop]
  omega

private theorem stop_step (s : Scanner) : s.step.2.stop = s.stop := by
  unfold step
  split
  · rfl
  · rename_i c cs hrest
    split
    · rename_i kind n hfirst
      obtain ⟨w, r, he, rfl, -⟩ := Pattern.exists_append_of_first? hfirst
      exact stop_advance (by simp [he])
    · exact stop_advance (by simp [hrest])

theorem stop_next (s : Scanner) : s.next.2.stop = s.stop :=
  s.skipBlanks.stop_step.trans (stop_advance (List.takeWhile_prefix isBlank).length_le)

private theorem stop_drain (s : Scanner) : s.drain.2.stop = s.stop := by
  induction s using next_induction with
  | atEnd s hend =>
    rw [drain_eq, if_pos hend]
    exact s.stop_next
  | more s hend ih =>
    rw [drain_eq, if_neg hend]
    exact ih.trans s.stop_next

/-! ## At the end of the line -/

/-- A scanner gives the end of the line only where no character is left, and stays there. -/
theorem step_of_kind_eq_endOfLine (h : s.step.1.kind = .endOfLine) :
    s.rest = [] ∧ s.step = (.endAt s.offset, s) := by
  unfold step at h ⊢
  split
  · exact ⟨by assumption, rfl⟩
  · rename_i c cs hrest
    split at h
    · rename_i hnil
      cases hnil.symm.trans hrest
    · split at h
      · rename_i kind n hfirst
        exact absurd h (Pattern.first?_eq_some hfirst).1
      · cases h

private theorem rest_next_of_kind_eq_endOfLine (h : s.next.1.kind = .endOfLine) :
    s.next.2.rest = [] := by
  obtain ⟨hrest, hstep⟩ := step_of_kind_eq_endOfLine h
  rw [next, hstep]
  exact hrest

theorem next_of_rest_eq_nil (h : s.rest = []) : s.next = (.endAt s.stop, s) := by
  simp [next, skipBlanks, step, stop, h]

/-- Draining ends behind the last character. -/
theorem rest_drain (s : Scanner) : s.drain.2.rest = [] := by
  induction s using next_induction with
  | atEnd s hend =>
    rw [drain_eq, if_pos hend]
    exact rest_next_of_kind_eq_endOfLine hend
  | more s hend ih => rwa [drain_eq, if_neg hend]

/-! ## The stream of a scanner -/

/-- The tokens that a scanner gives when it is asked for the next one without end. -/
def stream (s : Scanner) : Stream' Token :=
  Stream'.corec (·.next.1) (·.next.2) s

theorem stream_next (s : Scanner) : s.stream = [s.next.1] ++ₛ s.next.2.stream :=
  Stream'.corec_eq _ _ s

/-- **Draining a stream.** All tokens that are left are the next ones of the stream. -/
theorem stream_drain (s : Scanner) : s.stream = s.drain.1 ++ₛ s.drain.2.stream := by
  induction s using next_induction with
  | atEnd s hend => rw [drain_eq, if_pos hend, stream_next]
  | more s hend ih =>
    rw [drain_eq, if_neg hend, stream_next, ih]
    rfl

/-- Behind the last character the stream is the end of the line over and over. -/
theorem stream_of_rest_eq_nil (h : s.rest = []) : s.stream = Stream'.const (.endAt s.stop) := by
  have hnext := next_of_rest_eq_nil h
  refine Stream'.ext fun n => ?_
  induction n with
  | zero => rw [stream_next, hnext]; rfl
  | succ n ih =>
    rw [stream_next, hnext]
    exact ih

/-! ## Calls -/

/-- What a scanner is asked for: the next token, or the tokens up to the end of the line. -/
inductive Call where
  | next
  | drain
  deriving DecidableEq, Repr

/-- The tokens that a call gives, and the scanner behind them. -/
def call (s : Scanner) : Call → List Token × Scanner
  | .next => ([s.next.1], s.next.2)
  | .drain => s.drain

/-- The tokens that the calls give, all together, and the scanner behind them. -/
def afterCalls (s : Scanner) (calls : List Call) : List Token × Scanner :=
  calls.foldl (fun (given, s) c => (given ++ (s.call c).1, (s.call c).2)) ([], s)

theorem afterCalls_concat (s : Scanner) (calls : List Call) (c : Call) :
    s.afterCalls (calls ++ [c]) =
      ((s.afterCalls calls).1 ++ ((s.afterCalls calls).2.call c).1,
        ((s.afterCalls calls).2.call c).2) := by
  rw [afterCalls, List.foldl_append, ← afterCalls]
  rfl

/-- A call gives the next tokens of the stream. -/
theorem stream_call (s : Scanner) (c : Call) : s.stream = (s.call c).1 ++ₛ (s.call c).2.stream := by
  cases c with
  | next => exact s.stream_next
  | drain => exact s.stream_drain

/-- A call reports the tokens that it gives. -/
theorem diagnostics_call (s : Scanner) (c : Call) :
    (s.call c).2.diagnostics = s.diagnostics ++ complaints (s.call c).1 := by
  cases c with
  | next => exact s.diagnostics_next
  | drain => exact s.diagnostics_drain

/-- A call that gives the end of the line leaves no character. -/
theorem rest_call (c : Call) {t : Token} (ht : t ∈ (s.call c).1) (hend : t.kind = .endOfLine) :
    (s.call c).2.rest = [] := by
  cases c with
  | next =>
    rw [call, List.mem_singleton] at ht
    exact rest_next_of_kind_eq_endOfLine (ht ▸ hend)
  | drain => exact s.rest_drain

theorem call_of_rest_eq_nil (h : s.rest = []) (c : Call) : s.call c = ([.endAt s.stop], s) := by
  have hnext := next_of_rest_eq_nil h
  cases c with
  | next => rw [call, hnext]
  | drain =>
    rw [call, drain_eq, hnext]
    rfl

private theorem stop_call (s : Scanner) (c : Call) : (s.call c).2.stop = s.stop := by
  cases c with
  | next => exact s.stop_next
  | drain => exact s.stop_drain

/-! ## What a scanner has given -/

/-- The scanner stands on the line `text` and has given the tokens `given`: its stream goes on
behind them, it has reported them, and if the end of the line is among them, then no character is
left. -/
structure HasGiven (s : Scanner) (text : String) (given : List Token) : Prop where
  stop_eq : s.stop = text.length
  stream_eq : (ofText text).stream = given ++ₛ s.stream
  diagnostics_eq : s.diagnostics = complaints given
  rest_eq_nil : ∀ t ∈ given, t.kind = .endOfLine → s.rest = []

theorem hasGiven_ofText (text : String) : (ofText text).HasGiven text [] where
  stop_eq := (Nat.zero_add _).trans String.length_toList
  stream_eq := rfl
  diagnostics_eq := rfl
  rest_eq_nil := by simp

/-- **One call.** A call adds the tokens that it gives. -/
theorem HasGiven.call (h : s.HasGiven text given) (c : Call) :
    (s.call c).2.HasGiven text (given ++ (s.call c).1) where
  stop_eq := (s.stop_call c).trans h.stop_eq
  stream_eq := by rw [Stream'.append_append_stream, ← stream_call, h.stream_eq]
  diagnostics_eq := by rw [diagnostics_call, h.diagnostics_eq, complaints_append]
  rest_eq_nil := by
    intro t ht hend
    rcases List.mem_append.mp ht with ht | ht
    · have hrest := h.rest_eq_nil t ht hend
      rw [call_of_rest_eq_nil hrest]
      exact hrest
    · exact rest_call c ht hend

/-- Behind any calls a scanner has given the tokens of all of them. -/
theorem hasGiven_afterCalls (text : String) (calls : List Call) :
    ((ofText text).afterCalls calls).2.HasGiven text ((ofText text).afterCalls calls).1 := by
  induction calls using List.reverseRecOn with
  | nil => exact hasGiven_ofText text
  | append_singleton calls c ih =>
    rw [afterCalls_concat]
    exact ih.call c

/-- A scanner of the line drains to its end, and past it to the end alone. -/
theorem HasGiven.exists_drain (h : s.HasGiven text given) :
    ∃ tokens, s.drain.1 = tokens ++ [.endAt text.length] ∧ ∀ t ∈ tokens, t.kind ≠ .endOfLine := by
  obtain ⟨tokens, hdrain, htiles⟩ := s.exists_tiles_drain
  refine ⟨tokens, ?_, htiles.ne_endOfLine⟩
  rw [hdrain, ← h.stop_eq, stop]

/-! ## The stream of a line -/

/-- The stream of a line: its tokens, and behind them the end of the line over and over. -/
theorem stream_ofText (text : String) :
    (ofText text).stream = tokensOf text ++ₛ Stream'.const (.endAt text.length) := by
  -- All tokens are given up to the end of the line, and then that alone.
  rw [stream_drain, stream_of_rest_eq_nil (rest_drain _), stop_drain,
    (hasGiven_ofText text).stop_eq]
  rfl

end Scanner

open Scanner in
/-- **Calls of a scanner.** Whichever calls are made of the scanner of a line, the tokens that they
give, all together, are the first ones of the stream of the line: its tokens, and the end of the line
without end. The scanner has reported the invalid ones among them, each once, in their order.
Draining gives the end of the line as its last token and nowhere else, and gives it alone if it was
given before. -/
theorem calls_give_one_stream (text : String) (calls : List Scanner.Call) :
    let given := ((ofText text).afterCalls calls).1
    let s := ((ofText text).afterCalls calls).2
    given = (tokensOf text ++ₛ Stream'.const (.endAt text.length)).take given.length ∧
      s.diagnostics.map (fun d => (d.code, d.span)) =
        (given.filter (·.kind = .invalid)).map (fun t =>
          (Diagnostic.Code.invalidCharacter.name, t.span)) ∧
      (∃ tokens, (s.call .drain).1 = tokens ++ [.endAt text.length] ∧
        ∀ t ∈ tokens, t.kind ≠ .endOfLine) ∧
      (.endAt text.length ∈ given → (s.call .drain).1 = [.endAt text.length]) := by
  intro given s
  have h : s.HasGiven text given := hasGiven_afterCalls text calls
  refine ⟨?_, ?_, h.exists_drain, fun hend => ?_⟩
  · have htake : (given ++ₛ s.stream).take given.length = given.take given.length :=
      Stream'.take_append_of_le_length _ _ _ le_rfl
    rw [← stream_ofText, h.stream_eq, htake, List.take_length]
  · rw [h.diagnostics_eq, map_span_complaints]
  · rw [call_of_rest_eq_nil (h.rest_eq_nil _ hend rfl), h.stop_eq]

/-- A blank in front of the end, an invalid character, and calls past the end. -/
example :
    ((Scanner.ofText "a@ ").afterCalls [.next, .drain, .next, .drain]).1 =
      [.ofChars .identifier 0 ['a'], .ofChars .invalid 1 ['@'], .endAt 3, .endAt 3, .endAt 3] := by
  decide +kernel

end Numeral
