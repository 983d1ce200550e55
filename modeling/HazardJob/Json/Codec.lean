import HazardJob.Calculator
import HazardJob.Json.Basic

/-! The JSON forms of what a job reports, and reading them back. A choice among names is a text; a
source of an input is an object with one field; records are objects, and are read from arrays of
their fields as well. -/
namespace HazardJob

namespace CalculationMode

def toJson (m : CalculationMode) : Json := .text m.name

def ofJson? : Json → Option CalculationMode := Json.choice? ofName?

end CalculationMode

namespace Vs30Type

def toJson (t : Vs30Type) : Json := .text t.name

def ofJson? : Json → Option Vs30Type := Json.choice? ofName?

end Vs30Type

namespace CorrelationModel

def toJson (m : CorrelationModel) : Json := .text m.name

def ofJson? : Json → Option CorrelationModel := Json.choice? ofName?

end CorrelationModel

namespace Component

def toJson (c : Component) : Json := .text c.name

def ofJson? : Json → Option Component := Json.choice? ofName?

end Component

namespace CalculationId

def toJson (id : CalculationId) : Json := .text id.text

def ofJson? (j : Json) : Option CalculationId := j.text?.bind ofText?

end CalculationId

namespace Imt

def toJson (imt : Imt) : Json := .text imt.name

/-- A measure by its name; there is no error where there is no name. -/
def ofJson (j : Json) : Except (Option ImtError) Imt :=
  match j.text? with
  | none => .error none
  | some name => (Imt.ofText name).mapError some

end Imt

namespace InputSource

def toJson : InputSource → Json
  | path p => .object [("path", .text p.text)]
  | paths ps => .object [("paths", .texts (ps.map (·.text)))]
  | inline content => .object [("inline", .text content)]

def ofJson? : Json → Option InputSource
  | .object [("path", .text p)] => some (path ⟨p⟩)
  | .object [("paths", .array ps)] =>
    (ps.mapM Json.text?).map fun ps => paths (ps.map Path.mk)
  | .object [("inline", .text content)] => some (inline content)
  | _ => none

end InputSource

namespace InputSet

/-- Name of the only field of a set of inputs. -/
def entriesName : String := "entries"

def toJson (inputs : InputSet) : Json :=
  .object [(entriesName, .object (inputs.toList.map fun e => (e.1, e.2.toJson)))]

/-- Sources by role. -/
def ofFields? (fields : List (String × Json)) : Option InputSet :=
  (fields.mapM fun (e : String × Json) => (InputSource.ofJson? e.2).map (e.1, ·)).map
    SortedMap.ofList

def ofJson? (j : Json) : Option InputSet :=
  let entries? := match j with
    | .array [entries] => some entries
    | j => j.field? entriesName
  match entries? with
  | some (.object fields) => ofFields? fields
  | _ => none

end InputSet

namespace Diagnostic

def toJson (d : Diagnostic) : Json :=
  .object [("code", .text d.code.name), ("message", .text d.message),
    ("parameter", (d.parameter.map Json.text).getD .null), ("severity", .text d.severity.name)]

/-- The name of a parameter, or none. -/
def parameterOf? : Json → Option (Option String)
  | .null => some none
  | .text name => some (some name)
  | _ => none

/-- A finding from its fields. -/
def ofParts? (severity code message parameter : Json) : Option Diagnostic := do
  return ⟨← Json.choice? Severity.ofName? severity, ← Json.choice? DiagnosticCode.ofName? code,
    ← message.text?, ← parameterOf? parameter⟩

/-- The parameter may be left out of an object. -/
def ofJson? : Json → Option Diagnostic
  | .array [severity, code, message, parameter] => ofParts? severity code message parameter
  | j@(.object _) => do
    ofParts? (← j.field? "severity") (← j.field? "code") (← j.field? "message")
      ((j.field? "parameter").getD .null)
  | _ => none

end Diagnostic
end HazardJob
