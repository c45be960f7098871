/-!
# UTF-8

Bytes are decoded one at a time. Where they are not UTF-8, the fault names the first bad place: the
bytes of the sequence that were valid so far, and why the next one cannot follow.
-/

namespace Numeral.Utf8

/-- Why bytes are not UTF-8. -/
inductive Reason where
  | startByte
  | continuationByte
  | truncated
  deriving DecidableEq, Repr

/-- The reason in words. -/
def Reason.message : Reason → String
  | startByte => "invalid start byte"
  | continuationByte => "invalid continuation byte"
  | truncated => "unexpected end of data"

/-- The first bad place: `bytes` start at `position`, and no character can begin so. -/
structure Fault where
  reason : Reason
  position : Nat
  bytes : List UInt8
  deriving DecidableEq, Repr

/-- A byte as two hexadecimal digits. -/
def hexByte (b : UInt8) : String :=
  String.ofList [Nat.digitChar (b.toNat / 16), Nat.digitChar (b.toNat % 16)]

/-- The sentence that reports the fault. -/
def Fault.message (fault : Fault) : String :=
  let place :=
    match fault.bytes with
    | [b] => "byte 0x" ++ hexByte b ++ " in position " ++ toString fault.position
    | bytes => "bytes in position " ++ toString fault.position ++ "-" ++
        toString (fault.position + bytes.length - 1)
  "'utf-8' codec can't decode " ++ place ++ ": " ++ fault.reason.message

/-- A character that is not complete: the bytes read, those owed, the range of the next one, and
the bits read so far. -/
structure Pending where
  read : List UInt8
  owed : Nat
  low : Nat
  high : Nat
  bits : Nat

/-- What a first byte announces. A byte below 128 is a character of its own and owes nothing. -/
def Pending.ofFirst? (b : UInt8) : Option Pending :=
  let n := b.toNat
  if n < 0x80 then some ⟨[b], 0, 0, 0, n⟩
  else if n < 0xC2 then none
  else if n < 0xE0 then some ⟨[b], 1, 0x80, 0xBF, n - 0xC0⟩
  else if n = 0xE0 then some ⟨[b], 2, 0xA0, 0xBF, 0⟩
  else if n = 0xED then some ⟨[b], 2, 0x80, 0x9F, 0xD⟩
  else if n < 0xF0 then some ⟨[b], 2, 0x80, 0xBF, n - 0xE0⟩
  else if n = 0xF0 then some ⟨[b], 3, 0x90, 0xBF, 0⟩
  else if n < 0xF4 then some ⟨[b], 3, 0x80, 0xBF, n - 0xF0⟩
  else if n = 0xF4 then some ⟨[b], 3, 0x80, 0x8F, 4⟩
  else none

/-- The pending character after one more byte, if that byte can follow. -/
def Pending.push? (p : Pending) (b : UInt8) : Option Pending :=
  if p.low ≤ b.toNat ∧ b.toNat ≤ p.high then
    some ⟨p.read ++ [b], p.owed - 1, 0x80, 0xBF, p.bits * 64 + (b.toNat - 0x80)⟩
  else none

/-- The characters that `bytes` begin with and the first bad place, if there is one. The first byte
is at `position`, behind a character that may be pending. -/
def readFrom (position : Nat) : Option Pending → List UInt8 → List Char × Option Fault
  | none, [] => ([], none)
  | some p, [] => ([], some ⟨.truncated, position - p.read.length, p.read⟩)
  | pending, b :: rest =>
    let next : Except Fault Pending :=
      match pending with
      | none =>
        match Pending.ofFirst? b with
        | some p => .ok p
        | none => .error ⟨.startByte, position, [b]⟩
      | some p =>
        match p.push? b with
        | some q => .ok q
        | none => .error ⟨.continuationByte, position - p.read.length, p.read⟩
    match next with
    | .error fault => ([], some fault)
    | .ok p =>
      if p.owed = 0 then
        let (cs, fault) := readFrom (position + 1) none rest
        (Char.ofNat p.bits :: cs, fault)
      else readFrom (position + 1) (some p) rest

/-- The text that `bytes` encode. -/
def decode (bytes : List UInt8) : Except Fault String :=
  match readFrom 0 none bytes with
  | (cs, none) => .ok (String.ofList cs)
  | (_, some fault) => .error fault

/-- The text that `bytes` encode up to the first bad place. -/
def leading (bytes : List UInt8) : String :=
  String.ofList (readFrom 0 none bytes).1

/-- The bytes of `text`. -/
def encode (text : String) : List UInt8 :=
  text.toList.flatMap String.utf8EncodeChar

end Numeral.Utf8
