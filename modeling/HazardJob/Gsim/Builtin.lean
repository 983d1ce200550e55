import HazardJob.Gsim.Basic

/-! Signatures of the ground motion models that are known without further ado. -/
namespace HazardJob.GsimRegistry

def xu2019 (name region : String) : GsimSignature :=
  ⟨name, region, ["CAV"], .geometricMean, ["vs30"], ["mag", "hypo_depth"], ["repi"]⟩

def bullock2019 (name region : String) (component : Component) : GsimSignature :=
  ⟨name, region, ["CAV", "IA"], component, ["vs30"], ["mag"], ["rjb"]⟩

def bullock2021 (name : String) (component : Component) : GsimSignature :=
  ⟨name, "Active Shallow Crust", ["CAV"], component, ["vs30"], ["mag"], ["rrup"]⟩

/-- The known signatures. -/
def builtinSignatures : List GsimSignature :=
  [ ⟨"SadighEtAl1997", "Active Shallow Crust", ["PGA", "SA"],
      .geometricMean, ["vs30"], ["mag", "rake"], ["rrup"]⟩,
    ⟨"ToroEtAl2002", "Stable Continental Crust", ["PGA", "SA"],
      .geometricMean, [], ["mag"], ["rjb"]⟩,
    ⟨"BooreAtkinson2008", "Active Shallow Crust", ["PGA", "PGV", "SA"],
      .averageHorizontal, ["vs30"], ["mag", "rake"], ["rjb"]⟩,
    ⟨"AbrahamsonSilva2008", "Active Shallow Crust", ["PGA", "PGV", "SA"],
      .averageHorizontal, ["vs30", "vs30measured", "z1pt0"],
      ["dip", "rake", "mag", "ztor", "width"], ["rrup", "rjb", "rx"]⟩,
    ⟨"ChiouYoungs2008", "Active Shallow Crust", ["PGA", "PGV", "SA"],
      .averageHorizontal, ["vs30", "vs30measured", "z1pt0"],
      ["dip", "rake", "mag", "ztor"], ["rrup", "rjb", "rx"]⟩,
    ⟨"CampbellBozorgnia2008", "Active Shallow Crust", ["PGA", "PGV", "PGD", "CAV", "SA"],
      .averageHorizontal, ["vs30", "z2pt5"], ["dip", "rake", "mag", "ztor"], ["rrup", "rjb"]⟩,
    ⟨"AbrahamsonEtAl2014", "Active Shallow Crust", ["PGA", "PGV", "SA"],
      .rotD50, ["vs30", "vs30measured", "z1pt0"],
      ["dip", "rake", "mag", "ztor", "width"], ["rrup", "rjb", "rx", "ry0"]⟩,
    xu2019 "Xu2019Shallow" "Active Shallow Crust",
    xu2019 "Xu2019Deep" "Upper Mantle",
    bullock2019 "BullockEtAl2019Asc" "Active Shallow Crust" .rotD50,
    bullock2019 "BullockEtAl2019SInter" "Subduction Interface" .rotD50,
    bullock2019 "BullockEtAl2019SSlab" "Subduction IntraSlab" .rotD50,
    bullock2019 "BullockEtAl2019AscRotD100" "Active Shallow Crust" .rotD100,
    bullock2019 "BullockEtAl2019SInterRotD100" "Subduction Interface" .rotD100,
    bullock2019 "BullockEtAl2019SSlabRotD100" "Subduction IntraSlab" .rotD100,
    bullock2021 "BullockEtAl2021V1" .rotD50,
    bullock2021 "BullockEtAl2021V2j" .rotD50,
    bullock2021 "BullockEtAl2021V3" .rotD50,
    bullock2021 "BullockEtAl2021V4" .rotD50,
    bullock2021 "BullockEtAl2021V5" .rotD50,
    bullock2021 "BullockEtAl2021V6" .rotD50,
    bullock2021 "BullockEtAl2021V7" .rotD50,
    bullock2021 "BullockEtAl2021V8" .rotD50,
    bullock2021 "BullockEtAl2021V9" .rotD50,
    bullock2021 "BullockEtAl2021V1RotD100" .rotD100,
    bullock2021 "BullockEtAl2021V2RotD100" .rotD100,
    bullock2021 "BullockEtAl2021V3RotD100" .rotD100,
    bullock2021 "BullockEtAl2021V4RotD100" .rotD100,
    bullock2021 "BullockEtAl2021V5RotD100" .rotD100,
    bullock2021 "BullockEtAl2021V6RotD100" .rotD100,
    bullock2021 "BullockEtAl2021V7RotD100" .rotD100,
    bullock2021 "BullockEtAl2021V8RotD100" .rotD100,
    bullock2021 "BullockEtAl2021V9RotD100" .rotD100]

/-- The registry of the known signatures; none of them computes. -/
def builtin : GsimRegistry := builtinSignatures.foldl declare empty

end HazardJob.GsimRegistry
