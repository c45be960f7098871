/-!
# Lines

A text is split into lines after every line end. A carriage return with a line feed behind it is one
line end; a line end at the end of the text starts no further line.

Two sets of line ends are in use: the plain ones, which are the carriage return and the line feed,
and the wide ones, which add the vertical tab, the form feed, three information separators, the next
line control and the two Unicode separators.
-/

namespace Numeral

/-- The line ends of a text stream. -/
def isPlainLineEnd (c : Char) : Bool :=
  c = '\n' || c = '\r'

/-- The line ends of the wide set that are not plain. -/
def isWideOnlyLineEnd (c : Char) : Bool :=
  c = '\x0B' || c = '\x0C' || c = '\x1C' || c = '\x1D' || c = '\x1E' || c = '\x85' ||
    c = '\u2028' || c = '\u2029'

/-- The line ends of the wide set. -/
def isWideLineEnd (c : Char) : Bool :=
  isPlainLineEnd c || isWideOnlyLineEnd c

/-- The lines of a text whose line ends are the characters for which `ends` holds. -/
def splitLines (ends : Char → Bool) : List Char → List (List Char)
  | [] => []
  | '\r' :: '\n' :: rest =>
    if ends '\r' then [] :: splitLines ends rest
    else
      match splitLines ends ('\n' :: rest) with
      | [] => [['\r']]
      | line :: lines => ('\r' :: line) :: lines
  | c :: rest =>
    if ends c then [] :: splitLines ends rest
    else
      match splitLines ends rest with
      | [] => [[c]]
      | line :: lines => (c :: line) :: lines

/-- The lines of a text stream. -/
def plainLines (text : String) : List String :=
  (splitLines isPlainLineEnd text.toList).map String.ofList

/-- The lines of a text stream that are complete where more text may follow. A carriage return at the
end is not, as a line feed may belong to it. -/
def completeLines (text : String) : List String :=
  if text.toList.getLast? = some '\n' then plainLines text else (plainLines text).dropLast

/-- The lines of a text under the wide set of line ends. -/
def wideLines (text : String) : List String :=
  (splitLines isWideLineEnd text.toList).map String.ofList

end Numeral
