/-!
# Offsets and spans

Positions in a line count characters. An offset is a natural number; a span is a half-open range of
offsets and carries the proof that it does not end before it starts.

- `ofInts_eq_ok_iff`: two integers form a span iff neither is negative and they are in order.
- `cover`: the least span around two others.
- `slice`: the characters of a text that a span covers.
-/

namespace Numeral

/-- The half-open range of offsets from `start` to `stop`. -/
structure Span where
  start : Nat
  stop : Nat
  start_le_stop : start ≤ stop := by omega
  deriving DecidableEq, Repr

/-- Why integers give no offset or no span. -/
inductive SpanError where
  | negativeOffset
  | negativeEnd
  | reversed
  deriving DecidableEq, Repr

namespace SpanError

/-- The sentence that reports the error. -/
def message : SpanError → String
  | negativeOffset => "TextSize cannot be negative"
  | negativeEnd => "TextRange positions cannot be negative"
  | reversed => "TextRange invariant violated: start > end"

end SpanError

/-- The offset that an integer gives. -/
def offsetOfInt (value : Int) : Except SpanError Nat :=
  if value < 0 then .error .negativeOffset else .ok value.toNat

/-- How an offset is shown. -/
def describeOffset (offset : Nat) : String :=
  "TextSize(" ++ toString offset ++ ")"

namespace Span

/-- The empty span at `offset`. -/
def empty (offset : Nat) : Span where
  start := offset
  stop := offset

/-- The span of the `length` characters from `start` on. -/
def ofLength (start length : Nat) : Span where
  start := start
  stop := start + length

/-- The span between two integers. A negative end is reported before a wrong order. -/
def ofInts (start stop : Int) : Except SpanError Span :=
  if start < 0 ∨ stop < 0 then .error .negativeEnd
  else if h : start ≤ stop then .ok ⟨start.toNat, stop.toNat, by omega⟩
  else .error .reversed

/-- The number of characters that the span covers. -/
def length (s : Span) : Nat :=
  s.stop - s.start

/-- The least span that covers both `s` and `t`. -/
def cover (s t : Span) : Span where
  start := min s.start t.start
  stop := max s.stop t.stop
  start_le_stop := by have := s.start_le_stop; omega

/-- The span `distance` characters further right. -/
def shift (distance : Nat) (s : Span) : Span where
  start := s.start + distance
  stop := s.stop + distance
  start_le_stop := by have := s.start_le_stop; omega

/-- The characters of `text` that the span covers. What lies beyond the end of the text is left
out. -/
def slice (s : Span) (text : String) : String :=
  String.ofList ((text.toList.drop s.start).take s.length)

/-- Spans are ordered by their starts, and those of one start by their stops. -/
instance : LT Span where
  lt s t := s.start < t.start ∨ s.start = t.start ∧ s.stop < t.stop

instance : LE Span where
  le s t := s.start < t.start ∨ s.start = t.start ∧ s.stop ≤ t.stop

instance (s t : Span) : Decidable (s < t) :=
  inferInstanceAs (Decidable (_ ∨ _))

instance (s t : Span) : Decidable (s ≤ t) :=
  inferInstanceAs (Decidable (_ ∨ _))

/-- The two ends in round brackets. -/
def bracketed (s : Span) : String :=
  "(" ++ toString s.start ++ ", " ++ toString s.stop ++ ")"

/-- How a span is shown. -/
def describe (s : Span) : String :=
  "TextRange" ++ s.bracketed

@[ext]
theorem ext {s t : Span} (hstart : s.start = t.start) (hstop : s.stop = t.stop) : s = t := by
  cases s
  cases t
  simp_all

@[simp]
theorem length_empty (offset : Nat) : (empty offset).length = 0 := by
  simp [length, empty]

@[simp]
theorem length_ofLength (start n : Nat) : (ofLength start n).length = n := by
  simp [length, ofLength]

theorem ofInts_eq_ok_iff {start stop : Int} {s : Span} :
    ofInts start stop = .ok s ↔ start = s.start ∧ stop = s.stop := by
  have hs := s.start_le_stop
  unfold ofInts
  split
  · simp only [reduceCtorEq, false_iff]
    omega
  · split
    · simp only [Except.ok.injEq, Span.ext_iff]
      omega
    · simp only [reduceCtorEq, false_iff]
      omega

end Span

end Numeral
