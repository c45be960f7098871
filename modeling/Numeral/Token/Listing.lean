import Numeral.Diagnostic
import Numeral.Text.Case
import Numeral.Token

/-!
# Token listings

Tokens and diagnostics as lines of a report.
-/

namespace Numeral

/-- `text` with `fill` in front up to `width` characters. -/
def padLeft (width : Nat) (fill : Char) (text : String) : String :=
  String.ofList (List.replicate (width - text.length) fill) ++ text

/-- `text` with `fill` behind it up to `width` characters. -/
def padRight (width : Nat) (fill : Char) (text : String) : String :=
  text ++ String.ofList (List.replicate (width - text.length) fill)

/-- The lines as one text, each with a line feed behind it. -/
def unlines (lines : List String) : String :=
  String.join (lines.map (· ++ "\n"))

/-- The token at place `index` of a listing, its columns aligned. -/
def Token.listed (index : Nat) (t : Token) : String :=
  padLeft 3 '0' (toString index) ++ " " ++ padRight 18 ' ' t.kind.name ++
    " range=" ++ t.span.bracketed ++ " text=" ++ quote t.text

/-- The diagnostic as an item of a listing. -/
def Diagnostic.listed (d : Diagnostic) : String :=
  "- " ++ upper d.severity ++ " " ++ d.code ++ " range=" ++ d.span.bracketed ++
    " message=" ++ d.message

/-- The tokens, numbered from zero. -/
def listTokens (tokens : List Token) : List String :=
  tokens.zipIdx.map fun (t, index) => t.listed index

/-- The diagnostics under a heading. -/
def listDiagnostics (diagnostics : List Diagnostic) : List String :=
  "" :: "Diagnostics:" :: diagnostics.map Diagnostic.listed

end Numeral
