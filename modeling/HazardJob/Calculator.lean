import HazardJob.Job.Validation

/-! Calculators: what runs on a job. A calculation is launched under an identifier, on a job that
is validated before unless it is marked as validated. -/
namespace HazardJob

/-- An identifier of 128 bits. -/
structure CalculationId where
  bits : BitVec 128
deriving DecidableEq

namespace CalculationId

instance : Inhabited CalculationId := ⟨⟨0⟩⟩

/-- The value of a hexadecimal digit, in capitals or small letters. -/
def hexValue? (c : Char) : Option Nat :=
  if c.isDigit then some (c.toNat - '0'.toNat)
  else
    let d := c.toLower
    if 'a'.toNat ≤ d.toNat ∧ d.toNat ≤ 'f'.toNat then some (10 + d.toNat - 'a'.toNat) else none

/-- The number that hexadecimal digits denote. -/
def hexNumber? (digits : List Char) : Option Nat :=
  digits.foldlM (fun n c => (hexValue? c).map (16 * n + ·)) 0

/-- An identifier of 32 hexadecimal digits. -/
def ofDigits? (digits : List Char) : Option CalculationId :=
  if digits.length = 32 then (hexNumber? digits).map fun n => ⟨BitVec.ofNat 128 n⟩ else none

/-- Lengths of the groups that hyphens separate. -/
def groupLengths : List Nat := [8, 4, 4, 4, 12]

/-- An identifier in groups. -/
def ofGroups? (s : List Char) : Option CalculationId :=
  let groups := Text.pieces (· == '-') s
  if groups.map List.length = groupLengths then ofDigits? groups.flatten else none

/-- What may stand in front of an identifier in groups. -/
def scheme : List Char := "urn:uuid:".toList

/-- A text as an identifier: digits alone, or in groups, which may stand between braces or after
the scheme of a resource name. The scheme reads the same in capitals and in small letters. -/
def ofText? (text : String) : Option CalculationId :=
  let s := text.toList
  (ofDigits? s).or <| (ofGroups? s).or <|
    if s.length = 38 ∧ s.head? = some '\x7b' ∧ s.getLast? = some '\x7d' then
      ofGroups? (s.drop 1).dropLast
    else if (s.take scheme.length).map Char.toLower = scheme then ofGroups? (s.drop scheme.length)
    else none

/-- Cuts a list into pieces of given lengths. -/
def cut (s : List Char) : List Nat → List (List Char)
  | [] => []
  | n :: more => s.take n :: cut (s.drop n) more

/-- The identifier in groups of small hexadecimal digits. -/
def text (id : CalculationId) : String :=
  Text.join "-" ((cut id.bits.toHex.toList groupLengths).map String.ofList)

end CalculationId

/-- What runs on a job, with a state of its own that every run may change. -/
structure Calculator (σ : Type) where
  run : Job → CalculationId → σ → Except String Unit × σ

/-- Why a calculation is not finished. -/
inductive LaunchError where
  | notStarted (id : CalculationId) (error : JobError)
  | failed (id : CalculationId) (reason : String)

namespace LaunchError

/-- The error, from the outside in. -/
def chain : LaunchError → List String
  | notStarted id error => ["Calculation " ++ id.text ++ " not started", error.message]
  | failed id reason => ["Calculation " ++ id.text ++ " failed", reason]

/-- What is wrong with the job. -/
def jobError? : LaunchError → Option JobError
  | notStarted _ error => some error
  | failed _ _ => none

end LaunchError

namespace Workspace

/-- Validates the job unless it is marked as validated. -/
def ensureValidated (w : Workspace) : Except JobError Unit × Workspace :=
  if w.job.validated then (.ok (), w) else w.validate

/-- Runs a calculator on a job that is validated. -/
def launch (w : Workspace) (calculator : Calculator σ) (id : CalculationId) (s : σ) :
    Except LaunchError Unit × Workspace × σ :=
  match w.ensureValidated with
  | (.error e, w) => (.error (.notStarted id e), w, s)
  | (.ok (), w) =>
    let (result, s) := calculator.run w.job id s
    (result.mapError (.failed id), w, s)

end Workspace
end HazardJob
