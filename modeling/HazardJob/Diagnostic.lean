/-! Findings that do not keep a job from being calculated: keys that mean nothing, settings that are
overridden, values that are derived. Each has a severity, a code and a message, and may name the
parameter that it is about. -/
namespace HazardJob

inductive Severity where
  | warning | info
deriving DecidableEq

inductive DiagnosticCode where
  | unknownParameter | duplicateParameter | ignoredParameter | singlePointSpectrum
  | derivedParameter
deriving DecidableEq

namespace Severity

def all : List Severity := [warning, info]

def name : Severity → String
  | warning => "Warning"
  | info => "Info"

def ofName? (name : String) : Option Severity := all.find? (·.name == name)

end Severity

namespace DiagnosticCode

def all : List DiagnosticCode :=
  [unknownParameter, duplicateParameter, ignoredParameter, singlePointSpectrum, derivedParameter]

def name : DiagnosticCode → String
  | unknownParameter => "UnknownParameter"
  | duplicateParameter => "DuplicateParameter"
  | ignoredParameter => "IgnoredParameter"
  | singlePointSpectrum => "SinglePointSpectrum"
  | derivedParameter => "DerivedParameter"

def ofName? (name : String) : Option DiagnosticCode := all.find? (·.name == name)

end DiagnosticCode

structure Diagnostic where
  severity : Severity
  code : DiagnosticCode
  message : String
  parameter : Option String
deriving DecidableEq

namespace Diagnostic

def isWarning (d : Diagnostic) : Bool := d.severity == .warning

theorem isWarning_iff {d : Diagnostic} : d.isWarning = true ↔ d.severity = .warning := beq_iff_eq

/-- A key that is no parameter. -/
def unknownParameter (name : String) : Diagnostic :=
  ⟨.warning, .unknownParameter, "The parameter '" ++ name ++ "' is unknown, ignoring", some name⟩

theorem unknownParameter_eq (name : String) : unknownParameter name =
    { severity := .warning, code := .unknownParameter, parameter := some name
      message := "The parameter '" ++ name ++ "' is unknown, ignoring" } := rfl

/-- A key that is set again in a section. -/
def duplicateParameter (name sectionName : String) : Diagnostic :=
  ⟨.warning, .duplicateParameter,
    "The parameter '" ++ name ++ "' is set again in section [" ++ sectionName ++
      "], the last value wins",
    some name⟩

theorem duplicateParameter_eq (name sectionName : String) : duplicateParameter name sectionName =
    { severity := .warning, code := .duplicateParameter, parameter := some name
      message := "The parameter '" ++ name ++ "' is set again in section [" ++ sectionName ++
        "], the last value wins" } := rfl

/-- A parameter that gives way to another. -/
def ignoredParameter (name reason : String) : Diagnostic :=
  ⟨.warning, .ignoredParameter, "Ignoring " ++ name ++ " since " ++ reason, some name⟩

theorem ignoredParameter_eq (name reason : String) : ignoredParameter name reason =
    { severity := .warning, code := .ignoredParameter, parameter := some name
      message := "Ignoring " ++ name ++ " since " ++ reason } := rfl

/-- A parameter that takes its value from others. -/
def derivedParameter (name origin : String) : Diagnostic :=
  ⟨.info, .derivedParameter, name ++ " set to " ++ origin, some name⟩

theorem derivedParameter_eq (name origin : String) : derivedParameter name origin =
    { severity := .info, code := .derivedParameter, parameter := some name
      message := name ++ " set to " ++ origin } := rfl

/-- Uniform hazard spectra that will consist of one point. -/
def singlePointSpectrum : Diagnostic :=
  ⟨.warning, .singlePointSpectrum,
    "There is a single IMT, the uniform_hazard_spectra plot will contain a single point",
    some "uniform_hazard_spectra"⟩

theorem singlePointSpectrum_eq : singlePointSpectrum =
    { severity := .warning, code := .singlePointSpectrum, parameter := some "uniform_hazard_spectra"
      message := "There is a single IMT, the uniform_hazard_spectra plot will contain a single point" } :=
  rfl

end Diagnostic
end HazardJob
