/-! The analysis that a job asks for. -/
namespace HazardJob

inductive CalculationMode where
  | classical | preclassical | disaggregation
  | eventBased | eventBasedRisk | eventBasedDamage
  | scenario | scenarioRisk | scenarioDamage
  | classicalRisk | classicalDamage | classicalBcr
deriving DecidableEq

namespace CalculationMode

instance : Inhabited CalculationMode := ⟨classical⟩

def all : List CalculationMode :=
  [classical, preclassical, disaggregation, eventBased, eventBasedRisk, eventBasedDamage,
    scenario, scenarioRisk, scenarioDamage, classicalRisk, classicalDamage, classicalBcr]

def name : CalculationMode → String
  | classical => "classical"
  | preclassical => "preclassical"
  | disaggregation => "disaggregation"
  | eventBased => "event_based"
  | eventBasedRisk => "event_based_risk"
  | eventBasedDamage => "event_based_damage"
  | scenario => "scenario"
  | scenarioRisk => "scenario_risk"
  | scenarioDamage => "scenario_damage"
  | classicalRisk => "classical_risk"
  | classicalDamage => "classical_damage"
  | classicalBcr => "classical_bcr"

def ofName? (name : String) : Option CalculationMode := all.find? (·.name == name)

def isScenario : CalculationMode → Bool
  | scenario | scenarioRisk | scenarioDamage => true
  | _ => false

def isEventBased : CalculationMode → Bool
  | eventBased | eventBasedRisk | eventBasedDamage => true
  | _ => false

/-- Classical hazard and the risk modes on top of it. -/
def isClassical : CalculationMode → Bool
  | classical | preclassical | disaggregation => true
  | classicalRisk | classicalDamage | classicalBcr => true
  | _ => false

/-- Modes that compute losses or damages. -/
def isRisk : CalculationMode → Bool
  | eventBasedRisk | eventBasedDamage | scenarioRisk | scenarioDamage => true
  | classicalRisk | classicalDamage | classicalBcr => true
  | _ => false

/-- Modes that rely on a truncated distribution of ground motion. -/
def needsTruncationLevel : CalculationMode → Bool
  | disaggregation => true
  | _ => false

end CalculationMode
end HazardJob
