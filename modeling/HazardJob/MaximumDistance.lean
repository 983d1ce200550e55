import HazardJob.Binary64.Text
import HazardJob.SortedMap
import HazardJob.Text.Quoted

/-! The integration distance of a job: one for all tectonic regions, or one for each, where the key
`default` stands for every region without an entry. -/
namespace HazardJob

/-- Tectonic regions by name. -/
abbrev RegionSet := SortedSet String

/-- Names of the regions that the known ground motion models are made for. -/
def knownRegions : List String :=
  ["Active Shallow Crust", "Stable Continental Crust", "Subduction Interface",
    "Subduction IntraSlab", "Upper Mantle", "Volcanic", "Induced", "Geothermal"]

/-- The key that stands for every region without an entry. -/
def defaultRegion : String := "default"

inductive MaximumDistance where
  | uniform (distance : Binary64)
  | byRegion (distances : SortedMap String Binary64)
deriving BEq

namespace MaximumDistance

/-- The distance for a region. -/
def get? (d : MaximumDistance) (region : String) : Option Binary64 :=
  match d with
  | uniform distance => some distance
  | byRegion distances => (distances.get? region).or (distances.get? defaultRegion)

/-- The distance as it is written in a job file. -/
def text : MaximumDistance → String
  | uniform distance => distance.text
  | byRegion distances =>
    let entries := distances.toList.map fun e => "\"" ++ e.1 ++ "\": " ++ e.2.text
    "\x7b" ++ Text.join ", " entries ++ "\x7d"

/-- Why distances do not cover the regions of a source model. -/
inductive Gap where
  | foreign (region : String) (regions : RegionSet)
  | missing (region : String)

def Gap.message : Gap → String
  | foreign region regions =>
    "invalid TRT: you are setting the maximum_distance for " ++ region ++ " which is not in " ++
      Text.nameList regions.members
  | missing region => "missing distance for " ++ region ++ " and no default"

/-- What keeps the distances from covering `regions`: the first key that is neither one of them nor
the default, else the first region without a distance. Nothing is asked where no region is known. -/
def gap? (d : MaximumDistance) (regions : RegionSet) : Option Gap :=
  match d with
  | uniform _ => none
  | byRegion distances =>
    if regions.isEmpty then none
    else match distances.keys.find? fun key => key != defaultRegion && !regions.contains key with
      | some key => some (.foreign key regions)
      | none =>
        if distances.contains defaultRegion then none
        else (regions.members.find? fun region => !distances.contains region).map .missing

end MaximumDistance
end HazardJob
