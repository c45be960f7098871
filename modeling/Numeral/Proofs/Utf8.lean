import Mathlib.Algebra.Order.Group.Nat
import Mathlib.Tactic.SplitIfs
import Numeral.Text.Utf8

/-!
# Bytes of a text

What encodes a text is decoded to it. The first byte of a character announces how many bytes it owes
and in which range the next one is; each further byte adds six bits.

- `Pending.Awaits`: a pending character that lacks nothing but the lower bits of `n`.
- `readFrom_owed`: the bytes owed complete it.
- `exists_ofFirst?`: the first byte of a character announces the others.
- `decode_encode`: every text is read back from its bytes.
-/

namespace Numeral.Utf8

/-- The bytes that carry the last `owed` groups of six bits of `n`. -/
def owedBytes (n : Nat) : Nat → List UInt8
  | 0 => []
  | owed + 1 => .ofNat (n / 64 ^ owed % 64 + 0x80) :: owedBytes n owed

/-- The pending character has read all bits of `n` but those that it is owed, and the range of its
next byte leaves room for the byte that comes next. -/
structure Pending.Awaits (p : Pending) (n : Nat) : Prop where
  bits_eq : p.bits = n / 64 ^ p.owed
  low_le : ∀ k, p.owed = k + 1 → p.low ≤ n / 64 ^ k % 64 + 0x80
  le_high : ∀ k, p.owed = k + 1 → n / 64 ^ k % 64 + 0x80 ≤ p.high

private theorem toNat_owedByte (m : Nat) : (UInt8.ofNat (m % 64 + 0x80)).toNat = m % 64 + 0x80 := by
  rw [UInt8.toNat_ofNat']
  omega

/-- The next byte that is owed can follow, and then one byte less is owed. -/
theorem Pending.Awaits.exists_push? {p : Pending} {n k : Nat} (h : p.Awaits n)
    (howed : p.owed = k + 1) :
    ∃ q, p.push? (.ofNat (n / 64 ^ k % 64 + 0x80)) = some q ∧ q.owed = k ∧ q.Awaits n := by
  have hrange : p.low ≤ (UInt8.ofNat (n / 64 ^ k % 64 + 0x80)).toNat ∧
      (UInt8.ofNat (n / 64 ^ k % 64 + 0x80)).toNat ≤ p.high := by
    rw [toNat_owedByte]
    exact ⟨h.low_le k howed, h.le_high k howed⟩
  refine ⟨_, if_pos hrange, by simp [howed], ?_, ?_, ?_⟩
  · have hsplit : n / 64 ^ (k + 1) = n / 64 ^ k / 64 := by rw [pow_succ, Nat.div_div_eq_div_mul]
    simp only [toNat_owedByte, h.bits_eq, howed, hsplit, Nat.add_sub_cancel]
    omega
  · intro j _
    exact Nat.le_add_left _ _
  · intro j _
    dsimp only
    omega

private theorem readFrom_of_ofFirst? {b : UInt8} {p : Pending} (h : Pending.ofFirst? b = some p)
    (position : Nat) (rest : List UInt8) :
    readFrom position none (b :: rest) =
      if p.owed = 0 then
        (Char.ofNat p.bits :: (readFrom (position + 1) none rest).1,
          (readFrom (position + 1) none rest).2)
      else readFrom (position + 1) (some p) rest := by
  rw [readFrom]
  simp only [h]

private theorem readFrom_of_push? {b : UInt8} {p q : Pending} (h : p.push? b = some q)
    (position : Nat) (rest : List UInt8) :
    readFrom position (some p) (b :: rest) =
      if q.owed = 0 then
        (Char.ofNat q.bits :: (readFrom (position + 1) none rest).1,
          (readFrom (position + 1) none rest).2)
      else readFrom (position + 1) (some q) rest := by
  rw [readFrom]
  simp only [h]

/-- The bytes that are owed complete a pending character. -/
theorem readFrom_owed {p : Pending} {n : Nat} (h : p.Awaits n) (howed : p.owed ≠ 0)
    (position : Nat) (rest : List UInt8) :
    readFrom position (some p) (owedBytes n p.owed ++ rest) =
      (Char.ofNat n :: (readFrom (position + p.owed) none rest).1,
        (readFrom (position + p.owed) none rest).2) := by
  obtain ⟨k, hk⟩ := Nat.exists_eq_succ_of_ne_zero howed
  induction k generalizing p position with
  | zero =>
    obtain ⟨q, hq, hqowed, hawaits⟩ := h.exists_push? hk
    have hbits := hawaits.bits_eq
    rw [hqowed, pow_zero, Nat.div_one] at hbits
    rw [hk, owedBytes, List.cons_append, readFrom_of_push? hq, if_pos hqowed, hbits]
    rfl
  | succ k ih =>
    obtain ⟨q, hq, hqowed, hawaits⟩ := h.exists_push? hk
    rw [hk, owedBytes, List.cons_append, readFrom_of_push? hq, if_neg (by omega), ← hqowed,
      ih hawaits (by omega) _ hqowed, Nat.succ_eq_add_one, hqowed, Nat.add_assoc, Nat.add_comm 1]

/-! ## First bytes -/

theorem Pending.Awaits.of_mk {read : List UInt8} {low high bits n k : Nat}
    (hbits : bits = n / 64 ^ (k + 1)) (hlow : low ≤ n / 64 ^ k % 64 + 0x80)
    (hhigh : n / 64 ^ k % 64 + 0x80 ≤ high) : (Pending.mk read (k + 1) low high bits).Awaits n where
  bits_eq := hbits
  low_le := by
    rintro j ⟨⟩
    exact hlow
  le_high := by
    rintro j ⟨⟩
    exact hhigh

/-- A number of up to seven bits is a byte that owes nothing. -/
private theorem exists_ofFirst?_one {n : Nat} (hn : n ≤ 0x7f) :
    ∃ p, Pending.ofFirst? (.ofNat n) = some p ∧ p.owed = 0 ∧ p.Awaits n := by
  have hfirst : (UInt8.ofNat n).toNat = n := by
    rw [UInt8.toNat_ofNat']
    omega
  refine ⟨⟨[.ofNat n], 0, 0, 0, n⟩, ?_, rfl, by simp, by simp, by simp⟩
  simp only [Pending.ofFirst?, hfirst]
  exact if_pos (by omega)

/-- A number of up to eleven bits starts with a byte that owes one. -/
private theorem exists_ofFirst?_two {n : Nat} (hlow : 0x80 ≤ n) (hhigh : n ≤ 0x7ff) :
    ∃ p, Pending.ofFirst? (.ofNat (n / 64 % 32 + 0xc0)) = some p ∧ p.owed = 1 ∧ p.Awaits n := by
  have hfirst : (UInt8.ofNat (n / 64 % 32 + 0xc0)).toNat = n / 64 % 32 + 0xc0 := by
    rw [UInt8.toNat_ofNat']
    omega
  simp only [Pending.ofFirst?, hfirst]
  rw [if_neg (by omega), if_neg (by omega), if_pos (by omega)]
  exact ⟨_, rfl, rfl, .of_mk (by omega) (by omega) (by omega)⟩

/-- A number of up to sixteen bits starts with a byte that owes two. The range of the next one is
narrowed where the number would fit into two bytes, or would be a surrogate. -/
private theorem exists_ofFirst?_three {n : Nat} (hlow : 0x800 ≤ n) (hhigh : n ≤ 0xffff)
    (hvalid : n < 0xd800 ∨ 0xdfff < n) :
    ∃ p, Pending.ofFirst? (.ofNat (n / 4096 % 16 + 0xe0)) = some p ∧ p.owed = 2 ∧ p.Awaits n := by
  have hfirst : (UInt8.ofNat (n / 4096 % 16 + 0xe0)).toNat = n / 4096 % 16 + 0xe0 := by
    rw [UInt8.toNat_ofNat']
    omega
  simp only [Pending.ofFirst?, hfirst]
  rw [if_neg (by omega), if_neg (by omega), if_neg (by omega)]
  split_ifs with hshort hsurrogate
  · exact ⟨_, rfl, rfl, .of_mk (by omega) (by omega) (by omega)⟩
  · exact ⟨_, rfl, rfl, .of_mk (by omega) (by omega) (by omega)⟩
  · exact ⟨_, rfl, rfl, .of_mk (by omega) (by omega) (by omega)⟩
  all_goals omega

/-- Any other number of a character starts with a byte that owes three. The range of the next one is
narrowed where the number would fit into three bytes, or would be too large. -/
private theorem exists_ofFirst?_four {n : Nat} (hlow : 0xffff < n) (hhigh : n < 0x110000) :
    ∃ p, Pending.ofFirst? (.ofNat (n / 262144 % 8 + 0xf0)) = some p ∧ p.owed = 3 ∧ p.Awaits n := by
  have hfirst : (UInt8.ofNat (n / 262144 % 8 + 0xf0)).toNat = n / 262144 % 8 + 0xf0 := by
    rw [UInt8.toNat_ofNat']
    omega
  simp only [Pending.ofFirst?, hfirst]
  rw [if_neg (by omega), if_neg (by omega), if_neg (by omega), if_neg (by omega), if_neg (by omega),
    if_neg (by omega)]
  split_ifs with hshort hmiddle hlong
  · exact ⟨_, rfl, rfl, .of_mk (by omega) (by omega) (by omega)⟩
  · exact ⟨_, rfl, rfl, .of_mk (by omega) (by omega) (by omega)⟩
  · exact ⟨_, rfl, rfl, .of_mk (by omega) (by omega) (by omega)⟩
  all_goals omega

/-- The first byte of a character announces the others. -/
theorem exists_ofFirst? (c : Char) :
    ∃ first p, Pending.ofFirst? first = some p ∧ p.Awaits c.toNat ∧
      String.utf8EncodeChar c = first :: owedBytes c.toNat p.owed := by
  have hvalid : c.toNat < 0xd800 ∨ 0xdfff < c.toNat ∧ c.toNat < 0x110000 := c.valid
  have hval : c.val.toNat = c.toNat := rfl
  unfold String.utf8EncodeChar
  simp only [hval]
  split_ifs with hone htwo hthree
  · obtain ⟨p, hp, howed, hawaits⟩ := exists_ofFirst?_one hone
    exact ⟨_, p, hp, hawaits, by rw [howed]; rfl⟩
  · obtain ⟨p, hp, howed, hawaits⟩ := exists_ofFirst?_two (by omega) htwo
    exact ⟨_, p, hp, hawaits, by simp [howed, owedBytes]⟩
  · obtain ⟨p, hp, howed, hawaits⟩ := exists_ofFirst?_three (by omega) hthree (by omega)
    exact ⟨_, p, hp, hawaits, by simp [howed, owedBytes]⟩
  · obtain ⟨p, hp, howed, hawaits⟩ := exists_ofFirst?_four (not_le.mp hthree) (by omega)
    exact ⟨_, p, hp, hawaits, by simp [howed, owedBytes]⟩

/-! ## Texts -/

/-- The bytes of a character are read as the character, whatever comes behind them. -/
theorem readFrom_encodeChar (c : Char) (position : Nat) (rest : List UInt8) :
    ∃ position', readFrom position none (String.utf8EncodeChar c ++ rest) =
      (c :: (readFrom position' none rest).1, (readFrom position' none rest).2) := by
  obtain ⟨first, p, hp, hawaits, hbytes⟩ := exists_ofFirst? c
  rw [hbytes, List.cons_append, readFrom_of_ofFirst? hp]
  split_ifs with howed
  · have hbits := hawaits.bits_eq
    rw [howed, pow_zero, Nat.div_one] at hbits
    exact ⟨position + 1, by rw [hbits, howed, Char.ofNat_toNat]; rfl⟩
  · exact ⟨position + 1 + p.owed, by rw [readFrom_owed hawaits howed, Char.ofNat_toNat]⟩

theorem readFrom_encode (cs : List Char) (position : Nat) :
    readFrom position none (cs.flatMap String.utf8EncodeChar) = (cs, none) := by
  induction cs generalizing position with
  | nil => rfl
  | cons c cs ih =>
    obtain ⟨position', hread⟩ := readFrom_encodeChar c position (cs.flatMap String.utf8EncodeChar)
    rw [List.flatMap_cons, hread, ih]

/-- **Round trip.** The bytes of a text are decoded to the text. -/
theorem decode_encode (text : String) : decode (encode text) = .ok text := by
  rw [decode, encode, readFrom_encode]
  simp

end Numeral.Utf8
