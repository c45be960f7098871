import Numeral.Text.Lines
import Numeral.Text.Utf8

/-!
# Line streams

The lines of a file, as they are read one after the other. Its bytes are taken up in blocks, and a
block is decoded as a whole as soon as a line needs it. So a fault keeps back the whole block in which
it shows, while the lines that the blocks before it complete can be read. A character that the end of
the file cuts off shows only there, behind all complete lines.
-/

namespace Numeral

/-- The place of the byte that shows the fault: the one behind the bytes that were valid. A surrogate
is refused only with the byte behind its second one. -/
def Utf8.Fault.shownAt (fault : Fault) (bytes : List UInt8) : Nat :=
  match fault.reason with
  | .startByte => fault.position
  | .truncated => fault.position + fault.bytes.length
  | .continuationByte =>
    let isSurrogate :=
      match bytes.drop fault.position with
      | first :: second :: _ => first = 0xED && 0xA0 ≤ second && second ≤ 0xBF
      | _ => false
    fault.position + fault.bytes.length + (if isSurrogate then 1 else 0)

/-- Lines that can be read one after the other, and the fault that stops the reading behind them, if
there is one. -/
structure LineStream (ε : Type) where
  lines : List String
  fault : Option ε := none
  deriving DecidableEq, Repr

namespace LineStream

/-- The number of bytes in a block. -/
def blockSize : Nat := 8192

/-- How many of `size` bytes are taken up before a byte at `place` is needed. At the end all are. -/
def takenBefore (place size : Nat) : Nat :=
  if place < size then place / blockSize * blockSize else size

/-- The lines of a text. -/
def ofText {ε : Type} (text : String) : LineStream ε where
  lines := plainLines text

/-- The lines of a file with these bytes. -/
def ofBytes (bytes : List UInt8) : LineStream Utf8.Fault :=
  match Utf8.decode bytes with
  | .ok text => ofText text
  | .error fault =>
    let taken := bytes.take (takenBefore (fault.shownAt bytes) bytes.length)
    { lines := completeLines (Utf8.leading taken), fault := some fault }

/-- The stream with its fault in other words. -/
def mapFault {ε ζ : Type} (f : ε → ζ) (s : LineStream ε) : LineStream ζ where
  lines := s.lines
  fault := s.fault.map f

end LineStream

end Numeral
