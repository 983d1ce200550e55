import HazardJob.Binary64.Text

/-! Intensity measure types. Some measures stand alone, others take the period of an oscillator,
and the inelastic displacement takes a second argument besides. The name of a measure spells its
arguments out, and measures are ordered by period first and by name after that. -/
namespace HazardJob

/-- Measures without an argument. -/
inductive ScalarMeasure where
  | pga | pgv | pgd | cav | ia | rsd | rsd575 | rsd595 | rsd2080 | mmi | jma | avgSA
  | pgdfLatSpread | pgdfSettle | pgdfSlope | pgdfRupture | pgdGeomMean | liqProb | liqOccur
  | lse | lsd
deriving DecidableEq

namespace ScalarMeasure

def all : List ScalarMeasure :=
  [pga, pgv, pgd, cav, ia, rsd, rsd575, rsd595, rsd2080, mmi, jma, avgSA, pgdfLatSpread,
    pgdfSettle, pgdfSlope, pgdfRupture, pgdGeomMean, liqProb, liqOccur, lse, lsd]

def name : ScalarMeasure → String
  | pga => "PGA"
  | pgv => "PGV"
  | pgd => "PGD"
  | cav => "CAV"
  | ia => "IA"
  | rsd => "RSD"
  | rsd575 => "RSD575"
  | rsd595 => "RSD595"
  | rsd2080 => "RSD2080"
  | mmi => "MMI"
  | jma => "JMA"
  | avgSA => "AvgSA"
  | pgdfLatSpread => "PGDfLatSpread"
  | pgdfSettle => "PGDfSettle"
  | pgdfSlope => "PGDfSlope"
  | pgdfRupture => "PGDfRupture"
  | pgdGeomMean => "PGDGeomMean"
  | liqProb => "LiqProb"
  | liqOccur => "LiqOccur"
  | lse => "LSE"
  | lsd => "LSD"

def ofName? (name : String) : Option ScalarMeasure := all.find? (·.name == name)

end ScalarMeasure

/-- Measures that take one period or frequency. -/
inductive PeriodFamily where
  | sa | avgSA | fas | eas | drvt
deriving DecidableEq

namespace PeriodFamily

def all : List PeriodFamily := [sa, avgSA, fas, eas, drvt]

def name : PeriodFamily → String
  | sa => "SA"
  | avgSA => "AvgSA"
  | fas => "FAS"
  | eas => "EAS"
  | drvt => "DRVT"

def ofName? (name : String) : Option PeriodFamily := all.find? (·.name == name)

end PeriodFamily

/-- A period: a finite number, zero or above, given by its bit pattern. Minus zero is none. -/
structure Period where
  pattern : Nat
  finite : pattern < infinityPattern
deriving DecidableEq

namespace Period

def zero : Period := ⟨0, by decide⟩

def value (p : Period) : Binary64 := .signed false p.pattern (Nat.le_of_lt p.finite)

/-- A number as a period; minus zero counts as zero. -/
def ofNumber? : Binary64 → Option Period
  | .signed negative pattern _ =>
    if h : pattern < infinityPattern then
      if negative && pattern != 0 then none else some ⟨pattern, h⟩
    else none
  | .nan => none

end Period

inductive Imt where
  | scalar (measure : ScalarMeasure)
  | spectral (family : PeriodFamily) (period : Period)
  /-- Displacement of an inelastic oscillator; the second argument is its yield strength. -/
  | inelastic (period : Period) (strength : Binary64)
deriving DecidableEq

namespace Imt

/-- The family of inelastic displacements. -/
def inelasticFamily : String := "SDi"

/-- The name without arguments. -/
def family : Imt → String
  | scalar measure => measure.name
  | spectral family _ => family.name
  | inelastic _ _ => inelasticFamily

/-- The name, as it is written and read back. -/
def name : Imt → String
  | scalar measure => measure.name
  | spectral family period => family.name ++ "(" ++ period.value.pointedText ++ ")"
  | inelastic period strength =>
    inelasticFamily ++ "(" ++ period.value.pointedText ++ "," ++ strength.pointedText ++ ")"

/-- The period; zero for a measure without one. -/
def period : Imt → Binary64
  | scalar _ => Period.zero.value
  | spectral _ period => period.value
  | inelastic period _ => period.value

/-- Damping in percent of critical, the same for every measure. -/
def damping (_ : Imt) : Binary64 := .ofDecimal false 5 0

/-- The second argument, with minus zero replaced by zero. -/
def secondary : Imt → Option Binary64
  | inelastic _ strength => some strength.withoutMinusZero
  | _ => none

/-- The order of measures: by period, then by name, then by second argument. -/
def order : Imt → Imt → Ordering :=
  compareLex (compareOn period) (compareLex (compareOn name) (compareOn secondary))

instance : Ord Imt := ⟨order⟩

instance : Std.TransOrd Imt :=
  inferInstanceAs (Std.TransCmp
    (compareLex (compareOn period) (compareLex (compareOn name) (compareOn secondary))))

/-- What identifies a measure wherever equal measures have to meet. -/
def fingerprint (imt : Imt) : String × Binary64 × Binary64 × Option Binary64 :=
  (imt.name, imt.period, imt.damping, imt.secondary)

/-- Spectral acceleration, for one period. -/
def isSpectralAcceleration (imt : Imt) : Bool := imt.family == "SA"

/-- Peak ground acceleration. -/
def pga : Imt := scalar .pga

end Imt
end HazardJob
