import HazardJob.Binary64.Numeral
import HazardJob.Reading.Basic
import HazardJob.Text.Basic

/-! The tokens that literals and the names of intensity measures share: layout, commas, numbers. -/
namespace HazardJob.Reading

/-- Any spaces, tabs, carriage returns and line feeds. -/
def layout : Reader Unit := do let _ ← span Text.isLayout

/-- A comma with layout around it. -/
def comma : Reader Unit := do
  layout
  char ','
  layout

/-- A numeral, or `nan` or `inf` in any case. A mantissa with an unfinished exponent is committed
to. -/
def number : Reader Binary64 := fun s =>
  match Binary64.scan s with
  | .number value rest => .ok value rest
  | .dangling => .halt [⟨s, .kind .number⟩]
  | .none =>
    match Binary64.dropWord? ['n', 'a', 'n'] s, Binary64.dropWord? ['i', 'n', 'f'] s with
    | some rest, _ => .ok Binary64.nan rest
    | none, some rest => .ok (Binary64.infinity false) rest
    | none, none => .miss [⟨s, .kind .number⟩, ⟨s, .kind .alternative⟩]

end HazardJob.Reading
