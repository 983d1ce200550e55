import HazardJob.Binary64.Basic

/-! Literals of structured parameters: the empty value, truth values, numbers, quoted texts, lists,
and mappings that keep the order in which they were written. -/
namespace HazardJob

inductive Literal where
  | none
  | bool (value : Bool)
  | number (value : Binary64)
  | text (value : String)
  | list (items : List Literal)
  | dict (entries : List (Literal × Literal))

namespace Literal

/-- Name of the type, for messages. -/
def typeName : Literal → String
  | none => "None"
  | bool _ => "bool"
  | number _ => "number"
  | text _ => "string"
  | list _ => "list"
  | dict _ => "dict"

def number? : Literal → Option Binary64
  | number value => some value
  | _ => Option.none

def text? : Literal → Option String
  | text value => some value
  | _ => Option.none

end Literal
end HazardJob
