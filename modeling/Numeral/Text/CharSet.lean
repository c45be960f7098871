/-!
# Sets of characters

A set of characters, given by closed ranges of code points. The ranges are in ascending order and do
not meet, so that a search can stop at the first range behind a character.

- `contains_iff`: a character belongs to the set iff a range covers it.
-/

namespace Numeral

namespace CharSet

/-- Whether no range is empty, and each ends before the next one starts. -/
def areAscending : List (Nat × Nat) → Bool
  | r :: s :: rest => r.1 ≤ r.2 && r.2 < s.1 && areAscending (s :: rest)
  | [r] => r.1 ≤ r.2
  | [] => true

end CharSet

/-- A set of characters: the code points that lie in one of the closed ranges. -/
structure CharSet where
  ranges : List (Nat × Nat)
  ascending : CharSet.areAscending ranges = true := by decide +kernel

namespace CharSet

/-- Whether one of the ascending `ranges` covers `n`. The search ends at the first range that
starts after `n`. -/
def covers : List (Nat × Nat) → Nat → Bool
  | [], _ => false
  | (lo, hi) :: rest, n => lo ≤ n && (n ≤ hi || covers rest n)

/-- Whether `c` belongs to the set. -/
def contains (s : CharSet) (c : Char) : Bool :=
  covers s.ranges c.toNat

theorem areAscending_tail {r : Nat × Nat} {rest : List (Nat × Nat)}
    (h : areAscending (r :: rest) = true) : areAscending rest = true := by
  cases rest with
  | nil => rfl
  | cons s rest =>
    simp only [areAscending, Bool.and_eq_true] at h
    exact h.2

/-- The first range starts before all others. -/
theorem start_le_of_mem {r s : Nat × Nat} {rest : List (Nat × Nat)}
    (h : areAscending (r :: rest) = true) (hs : s ∈ rest) : r.1 ≤ s.1 := by
  induction rest generalizing r with
  | nil => cases hs
  | cons q rest ih =>
    have hle : r.1 ≤ q.1 := by
      simp only [areAscending, Bool.and_eq_true, decide_eq_true_eq] at h
      exact Nat.le_trans h.1.1 (Nat.le_of_lt h.1.2)
    rcases List.mem_cons.mp hs with rfl | hs
    · exact hle
    · exact Nat.le_trans hle (ih (areAscending_tail h) hs)

theorem covers_iff {ranges : List (Nat × Nat)} (h : areAscending ranges = true) {n : Nat} :
    covers ranges n = true ↔ ∃ r ∈ ranges, r.1 ≤ n ∧ n ≤ r.2 := by
  induction ranges with
  | nil => simp [covers]
  | cons r rest ih =>
    simp only [covers, Bool.and_eq_true, Bool.or_eq_true, decide_eq_true_eq,
      ih (areAscending_tail h), List.mem_cons, exists_eq_or_imp]
    constructor
    · rintro ⟨hlo, hhi | hlater⟩
      · exact .inl ⟨hlo, hhi⟩
      · exact .inr hlater
    · rintro (⟨hlo, hhi⟩ | ⟨s, hs, hlo, hhi⟩)
      · exact ⟨hlo, .inl hhi⟩
      -- A range that covers `n` starts at `n` at the latest, so the search gets as far.
      · exact ⟨Nat.le_trans (start_le_of_mem h hs) hlo, .inr ⟨s, hs, hlo, hhi⟩⟩

theorem contains_iff {s : CharSet} {c : Char} :
    s.contains c = true ↔ ∃ r ∈ s.ranges, r.1 ≤ c.toNat ∧ c.toNat ≤ r.2 :=
  covers_iff s.ascending

end CharSet

end Numeral
