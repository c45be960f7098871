import Numeral.Base
import Numeral.Text.Span

/-!
# Tokens

A token is a kind, the text that it was read from, and the span of that text.
-/

namespace Numeral

/-- What a token is. A keyword names a base; a number has the least base whose digits it uses. -/
inductive Kind where
  | endOfLine
  | invalid
  | plus
  | minus
  | times
  | divide
  | openParen
  | closeParen
  | semicolon
  | keyword (base : Base)
  | identifier
  | number (base : Base)
  deriving DecidableEq, Repr

namespace Kind

/-- The name of the kind in listings. -/
def name : Kind → String
  | endOfLine => "EOF"
  | invalid => "INVALID"
  | plus => "PLUS"
  | minus => "MINUS"
  | times => "MULTIPLY"
  | divide => "DIVIDE"
  | openParen => "LPAREN"
  | closeParen => "RPAREN"
  | semicolon => "SEMICOLON"
  | keyword base => base.name
  | identifier => "IDENTIFIER"
  | number .bin => "BINARY_NUMBER"
  | number .oct => "OCTAL_NUMBER"
  | number .hex => "HEXADECIMAL_NUMBER"

/-- The number of the kind; its tens give the group that the kind belongs to. -/
def code : Kind → Nat
  | endOfLine => 1
  | invalid => 2
  | plus => 10
  | minus => 11
  | times => 12
  | divide => 13
  | openParen => 20
  | closeParen => 21
  | semicolon => 22
  | keyword .bin => 30
  | keyword .oct => 31
  | keyword .hex => 32
  | identifier => 40
  | number .bin => 41
  | number .oct => 42
  | number .hex => 43

/-- Every kind, in ascending order of the codes. -/
def all : List Kind :=
  [endOfLine, invalid, plus, minus, times, divide, openParen, closeParen, semicolon,
    keyword .bin, keyword .oct, keyword .hex, identifier, number .bin, number .oct, number .hex]

/-- Whether the kind is one of the four arithmetic operators. -/
def isOperator : Kind → Bool
  | plus | minus | times | divide => true
  | _ => false

/-- Whether the kind is a base keyword. -/
def isKeyword : Kind → Bool
  | keyword _ => true
  | _ => false

/-- Whether the kind is a number. -/
def isNumber : Kind → Bool
  | number _ => true
  | _ => false

/-- The kind of that name. -/
def ofName? (name : String) : Option Kind :=
  all.find? (·.name = name)

/-- The kind of that code. -/
def ofCode (code : Int) : Except UnknownLabel Kind :=
  match all.find? (fun k => (k.code : Int) = code) with
  | some k => .ok k
  | none => .error ⟨toString code, "TokenKind"⟩

/-- The base that a keyword names. -/
def base? : Kind → Option Base
  | keyword base => some base
  | _ => none

theorem mem_all (k : Kind) : k ∈ all := by
  cases k with
  | keyword b | number b => cases b <;> decide
  | _ => decide

theorem ofName?_name (k : Kind) : ofName? k.name = some k := by
  cases k with
  | keyword b | number b => cases b <;> decide
  | _ => decide

theorem isKeyword_iff {k : Kind} : k.isKeyword = true ↔ ∃ b, k = keyword b := by
  cases k <;> simp [isKeyword]

theorem isNumber_iff {k : Kind} : k.isNumber = true ↔ ∃ b, k = number b := by
  cases k <;> simp [isNumber]

theorem base?_eq_some_iff {k : Kind} {b : Base} : k.base? = some b ↔ k = keyword b := by
  cases k <;> simp [base?]

end Kind

/-- A kind that was taken for a base keyword and is none. -/
structure NotKeyword where
  kind : Kind
  deriving DecidableEq, Repr

/-- The sentence that reports a kind that is no base keyword. -/
def NotKeyword.message (e : NotKeyword) : String :=
  "Not a base keyword token kind: <TokenKind." ++ e.kind.name ++ ": " ++ toString e.kind.code ++ ">"

/-- The base that a keyword names, or the report that `kind` is none. -/
def Base.ofKeyword (kind : Kind) : Except NotKeyword Base :=
  match kind.base? with
  | some b => .ok b
  | none => .error ⟨kind⟩

/-- A piece of a line: its kind, its text, and where it stands. -/
structure Token where
  kind : Kind
  text : String
  span : Span
  deriving DecidableEq, Repr

namespace Token

/-- The token behind the last character of a line. -/
def endAt (offset : Nat) : Token where
  kind := .endOfLine
  text := ""
  span := .empty offset

/-- The token of that kind which consists of `cs`, the first of them at `offset`. -/
def ofChars (kind : Kind) (offset : Nat) (cs : List Char) : Token where
  kind := kind
  text := String.ofList cs
  span := .ofLength offset cs.length

/-- The text of `source` that the token covers. The end of the line covers none. -/
def textIn (source : String) (t : Token) : String :=
  match t.kind with
  | .endOfLine => ""
  | _ => t.span.slice source

/-- The token `distance` characters further right. -/
def shift (distance : Nat) (t : Token) : Token :=
  { t with span := t.span.shift distance }

end Token

end Numeral
