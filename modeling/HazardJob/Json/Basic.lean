import HazardJob.Text.Basic

/-! JSON values and their text. A value is written over several lines, indented by two blanks for
each level; objects keep the order of their fields. -/
namespace HazardJob

inductive Json where
  | null
  | bool (value : Bool)
  /-- A number by its text. -/
  | number (text : String)
  | text (value : String)
  | array (items : List Json)
  | object (fields : List (String × Json))

namespace Json

instance : Inhabited Json := ⟨null⟩

/-- The last two digits of a code point in hexadecimal. -/
def hexPair (n : Nat) : List Char := [Nat.digitChar (n / 16 % 16), Nat.digitChar (n % 16)]

/-- A character within quotes. Quotes, backslashes and control characters are escaped. -/
def escape (c : Char) : List Char :=
  if c == '"' then ['\\', '"']
  else if c == '\\' then ['\\', '\\']
  else if c == '\n' then ['\\', 'n']
  else if c == '\r' then ['\\', 'r']
  else if c == '\t' then ['\\', 't']
  else if c.toNat == 0x08 then ['\\', 'b']
  else if c.toNat == 0x0C then ['\\', 'f']
  else if c.toNat < 0x20 then ['\\', 'u', '0', '0'] ++ hexPair c.toNat
  else [c]

/-- A text within quotes. -/
def quoted (s : String) : String := "\"" ++ String.ofList (s.toList.flatMap escape) ++ "\""

/-- A line feed and the indentation of a level. -/
def newLine (level : Nat) : String := "\n" ++ String.ofList (List.replicate (2 * level) ' ')

/-- Lines between two brackets; nothing stands between the brackets of nothing. -/
def enclosed (level : Nat) (opening closing : String) (parts : List String) : String :=
  if parts.isEmpty then opening ++ closing
  else
    opening ++ newLine (level + 1) ++ Text.join ("," ++ newLine (level + 1)) parts ++
      newLine level ++ closing

mutual

/-- The text of a value that stands at a level. -/
def prettyAt (level : Nat) : Json → String
  | null => "null"
  | bool value => if value then "true" else "false"
  | number digits => digits
  | text value => quoted value
  | array items => enclosed level "[" "]" (prettyItems (level + 1) items)
  | object fields => enclosed level "\x7b" "\x7d" (prettyFields (level + 1) fields)

/-- The texts of the items of an array. -/
def prettyItems (level : Nat) : List Json → List String
  | [] => []
  | item :: more => prettyAt level item :: prettyItems level more

/-- The texts of the fields of an object. -/
def prettyFields (level : Nat) : List (String × Json) → List String
  | [] => []
  | (key, value) :: more =>
    (quoted key ++ ": " ++ prettyAt level value) :: prettyFields level more

end

/-- The text of a value. -/
def pretty (value : Json) : String := prettyAt 0 value

/-- Texts as an array. -/
def texts (items : List String) : Json := array (items.map text)

/-- The text, if the value is one. -/
def text? : Json → Option String
  | text value => some value
  | _ => none

/-- The field of an object. -/
def field? (value : Json) (key : String) : Option Json :=
  match value with
  | object fields => fields.lookup key
  | _ => none

/-- One of the names of a type, alone or as the only field of an object with nothing in it. -/
def choice? (ofName? : String → Option α) : Json → Option α
  | text name => ofName? name
  | object [(name, null)] => ofName? name
  | _ => none

end Json
end HazardJob
