/-!
# Paths

A path is a root, which is empty for a relative path, and the names that lead on from it. Empty
names and single dots lead nowhere and are left out; double dots are kept.
-/

namespace Numeral

/-- A root and the names that lead on from it. -/
structure Path where
  root : String
  names : List String
  deriving DecidableEq, Repr

namespace Path

/-- The pieces of `cs` between the slashes. -/
def pieces : List Char → List (List Char)
  | [] => [[]]
  | c :: cs =>
    if c = '/' then [] :: pieces cs
    else
      match pieces cs with
      | [] => [[c]]
      | piece :: rest => (c :: piece) :: rest

/-- The root of a path: exactly two slashes at the head are a root of their own. -/
def rootOf : List Char → String
  | '/' :: '/' :: '/' :: _ => "/"
  | '/' :: '/' :: _ => "//"
  | '/' :: _ => "/"
  | _ => ""

/-- The path that `text` writes. -/
def ofString (text : String) : Path where
  root := rootOf text.toList
  names := ((pieces text.toList).map String.ofList).filter fun name => name ≠ "" ∧ name ≠ "."

/-- How a path is written; the path that leads nowhere is a dot. -/
def toString (p : Path) : String :=
  if p.root = "" ∧ p.names = [] then "."
  else p.root ++ "/".intercalate p.names

instance : ToString Path := ⟨toString⟩

/-- The path without its last name. -/
def parent (p : Path) : Path :=
  { p with names := p.names.dropLast }

/-- Whether one of the names holds a zero byte, which no file name can. -/
def hasZeroByte (p : Path) : Bool :=
  p.names.any ('\x00' ∈ ·.toList)

/-- Whether the path starts at the top and not at the working directory. -/
def isAbsolute (p : Path) : Bool :=
  p.root ≠ ""

end Path

end Numeral
