import HazardJob.Text.Basic
import HazardJob.Text.Hidden

/-! Names quoted in messages. A quoted name stands between double quotes; characters that would
break the quotation, or that show nothing, are written as escapes. A plain list of names puts each
between apostrophes and escapes nothing. -/
namespace HazardJob.Text

/-- The escape of a code point: its hexadecimal digits between braces. -/
def codePointEscape (c : Char) : String :=
  "\\u\x7b" ++ String.ofList (Nat.toDigits 16 c.toNat) ++ "\x7d"

def quoteChar (c : Char) : String :=
  if c == '"' then "\\\""
  else if c == '\\' then "\\\\"
  else if c == '\n' then "\\n"
  else if c == '\r' then "\\r"
  else if c == '\t' then "\\t"
  else if c.toNat == 0 then "\\0"
  else if isHidden c then codePointEscape c
  else c.toString

/-- A name between double quotes, with escapes. -/
def quote (name : String) : String := "\"" ++ String.join (name.toList.map quoteChar) ++ "\""

/-- Names between double quotes, as a list in brackets. -/
def quotedList (names : List String) : String := "[" ++ join ", " (names.map quote) ++ "]"

/-- Names between apostrophes, as a list in brackets. -/
def nameList (names : List String) : String :=
  "[" ++ join ", " (names.map fun name => "'" ++ name ++ "'") ++ "]"

end HazardJob.Text
