import HazardJob.Proofs.Job.Complete

/-! The maximum distance of a job. The check that it covers the tectonic regions agrees with the look-up
of the distance for a region: what passes has one for each of them, and once a job that was built has
passed validation, all of them are above zero. -/
namespace HazardJob

/-- What is found first in an ascending list is the least. -/
theorem isLeast_of_find? {α : Type} [Preorder α] {xs : List α} (ascending : xs.Pairwise (· < ·))
    {p : α → Bool} {x : α} (found : xs.find? p = some x) :
    IsLeast {y | y ∈ xs ∧ p y = true} x := by
  obtain ⟨holds, before, after, rfl, earlier⟩ := List.find?_eq_some_iff_append.mp found
  obtain ⟨-, ascending, -⟩ := List.pairwise_append.mp ascending
  refine ⟨⟨List.mem_append_right _ List.mem_cons_self, holds⟩, ?_⟩
  rintro y ⟨member, also⟩
  rcases List.mem_append.mp member with low | high
  · have fails := earlier y low
    rw [also] at fails
    cases fails
  · rcases List.mem_cons.mp high with rfl | high
    · exact le_rfl
    · exact le_of_lt ((List.pairwise_cons.mp ascending).1 y high)

theorem SortedMap.keys_lt {ν : Type} (m : SortedMap String ν) : m.keys.Pairwise (· < ·) :=
  m.keys_ascending.imp compareOfLessAndEq_eq_lt.mp

namespace MaximumDistance

variable {d : MaximumDistance} {regions : RegionSet}

/-- A key of the distances that is neither a region nor the default. -/
def Foreign (d : MaximumDistance) (regions : RegionSet) (key : String) : Prop :=
  ∃ distances, d = .byRegion distances ∧ key ∈ distances.keys ∧ key ≠ defaultRegion ∧
    key ∉ regions.members

/-- A region without a distance. -/
def Missing (d : MaximumDistance) (regions : RegionSet) (region : String) : Prop :=
  region ∈ regions.members ∧ d.get? region = none

theorem isSome_get?_byRegion (distances : SortedMap String Binary64) (region : String) :
    ((byRegion distances).get? region).isSome =
      (distances.contains region || distances.contains defaultRegion) := by
  simp [get?, SortedMap.contains]

theorem foreign_byRegion_iff {distances : SortedMap String Binary64} {key : String} :
    (byRegion distances).Foreign regions key ↔ key ∈ distances.keys ∧
      (key != defaultRegion && !regions.contains key) = true := by
  simp [Foreign, ← SortedMap.contains_iff_mem_keys, SortedSet.members]

/-- What the check asks of the default and of each region alone comes to a distance for each region. -/
theorem covers_iff : d.Covers regions ↔ (∃ x, d = .uniform x) ∨ regions.members = [] ∨
    (∀ key, ¬d.Foreign regions key) ∧ ∀ region ∈ regions.members, (d.get? region).isSome = true := by
  cases d with
  | uniform x => simp [Covers]
  | byRegion distances =>
    have unknown : regions.isEmpty = false ↔ regions.members ≠ [] := by
      simp [SortedMap.isEmpty, SortedSet.members, SortedMap.keys]
    have own : (∀ key, ¬(byRegion distances).Foreign regions key) ↔
        ∀ key ∈ distances.keys, key ≠ defaultRegion → regions.contains key = true := by
      simp [foreign_byRegion_iff]
    have served : (∀ region ∈ regions.members, ((byRegion distances).get? region).isSome = true) ↔
        distances.contains defaultRegion = true ∨
          ∀ region ∈ regions.members, distances.contains region = true := by
      simp only [isSome_get?_byRegion]
      cases distances.contains defaultRegion <;> simp
    rw [own, served]
    by_cases empty : regions.members = []
    · simp [Covers, unknown, empty]
    · simp [Covers, unknown, empty]

theorem Covers.get? (covers : d.Covers regions) {region : String}
    (member : region ∈ regions.members) : ∃ x, d.get? region = some x := by
  rcases covers_iff.mp covers with ⟨x, rfl⟩ | empty | ⟨-, served⟩
  · exact ⟨x, rfl⟩
  · rw [empty] at member
    cases member
  · exact Option.isSome_iff_exists.mp (served region member)

/-- A gap is the least foreign key if there is one, and else the least region without a distance. -/
theorem gap?_eq_some {gap : Gap} (found : d.gap? regions = some gap) :
    (∃ key, IsLeast {key | d.Foreign regions key} key ∧ gap = .foreign key regions) ∨
      (∀ key, ¬d.Foreign regions key) ∧
        ∃ region, IsLeast {region | d.Missing regions region} region ∧ gap = .missing region := by
  cases d with
  | uniform x => cases found
  | byRegion distances =>
    simp only [gap?] at found
    split at found
    · cases found
    split at found
    · rename_i key first
      cases found
      have least := isLeast_of_find? distances.keys_lt first
      simp only [← foreign_byRegion_iff] at least
      exact .inl ⟨key, least, rfl⟩
    · rename_i own
      refine .inr ⟨fun key foreign => ?_, ?_⟩
      · obtain ⟨member, unknown⟩ := foreign_byRegion_iff.mp foreign
        exact List.find?_eq_none.mp own key member unknown
      split at found
      · cases found
      · rename_i noDefault
        obtain ⟨region, first, rfl⟩ := Option.map_eq_some_iff.mp found
        have least := isLeast_of_find? regions.keys_lt first
        have missing (r : String) : (byRegion distances).Missing regions r ↔
            r ∈ regions.keys ∧ (!distances.contains r) = true := by
          rw [Missing, ← Option.isNone_iff_eq_none, ← Option.not_isSome, isSome_get?_byRegion]
          simp [noDefault, SortedSet.members]
        simp only [← missing] at least
        exact ⟨region, least, rfl⟩

end MaximumDistance

theorem Rule.Positive.get? {d : MaximumDistance} (positive : Rule.Positive d) {region : String}
    {x : Binary64} (found : d.get? region = some x) : Binary64.zero.numericLt x = true := by
  cases d with
  | uniform y =>
    cases found
    exact positive
  | byRegion distances =>
    have stands {key : String} (given : distances.get? key = some x) : x ∈ distances.values :=
      List.mem_map.mpr ⟨(key, x), SortedMap.get?_eq_some_iff.mp given, rfl⟩
    rcases Option.or_eq_some_iff.mp found with own | ⟨-, default⟩
    · exact positive x (stands own)
    · exact positive x (stands default)

/-- Distances that a job is built with have been read, and so are above zero. -/
theorem Draft.positive_built {d : Draft} {files : FileTree} {job : Job}
    (built : d.build files = .ok job) {distance : MaximumDistance}
    (given : job.params.maximumDistance = some distance) : Rule.Positive distance := by
  have value : job.params.get? .maximumDistance = some (.distance distance) := by
    simp [JobParams.get?, given]
  rcases (sourced_built built).rule_read value with null | ⟨text, read⟩
  · cases null
  · obtain ⟨other, found, same⟩ := fmap_eq_ok.mp read
    cases same
    exact Rule.positive_of_distanceOf found

/-- Whatever was made of a job since it was built, once validation passes every region has a distance
above zero. -/
theorem Workspace.distances_validated {draft : Draft} {files later : FileTree} {job j : Job}
    {v : Workspace} (built : draft.build files = .ok job) (reached : job.Reached j)
    (passed : (Workspace.mk later j).validate = (.ok (), v)) {d : MaximumDistance}
    (given : v.job.params.maximumDistance = some d) :
    ∀ region ∈ v.job.regions.members, ∃ x, d.get? region = some x ∧
      Binary64.zero.numericLt x = true := by
  intro region member
  have settled := Draft.build_settled built
  have left : job.Reached v.job := by
    have validated := reached.validate later
    rwa [passed] at validated
  have distance : job.params.maximumDistance = v.job.params.maximumDistance :=
    congrArg (·.params.maximumDistance) (left.grows settled).frame
  have positive := Draft.positive_built built (distance.trans given)
  have consistent := consistent_of_validate (w := ⟨later, j⟩) (reached.settled settled) passed
  obtain ⟨x, found⟩ := (consistent.coversRegions d given).get? member
  exact ⟨x, found, positive.get? found⟩

/-- Distances pass the check exactly if there is one for all regions, no region is known, or every key
is a region or the default and every region has a distance. If they do not, what is reported is the
least key that is neither, and where there is none, the least region without a distance. Whatever was
made of a job since it was built, once validation passes every region has a distance above zero. -/
theorem MaximumDistance.coverage (d : MaximumDistance) (regions : RegionSet) :
    (d.gap? regions = none ↔ (∃ x, d = .uniform x) ∨ regions.members = [] ∨
      (∀ key, ¬d.Foreign regions key) ∧
        ∀ region ∈ regions.members, (d.get? region).isSome = true) ∧
    (∀ gap, d.gap? regions = some gap →
      (∃ key, IsLeast {key | d.Foreign regions key} key ∧ gap.message =
        "invalid TRT: you are setting the maximum_distance for " ++ key ++ " which is not in " ++
          Text.nameList regions.members) ∨
      (∀ key, ¬d.Foreign regions key) ∧ ∃ region, IsLeast {region | d.Missing regions region} region ∧
        gap.message = "missing distance for " ++ region ++ " and no default") ∧
    ∀ (draft : Draft) (files later : FileTree) (job j : Job) (v : Workspace),
      draft.build files = .ok job → job.Reached j → (Workspace.mk later j).validate = (.ok (), v) →
      v.job.params.maximumDistance = some d → v.job.regions = regions →
      ∀ region ∈ regions.members, ∃ x, d.get? region = some x ∧ Binary64.zero.numericLt x = true := by
  refine ⟨(d.gap?_eq_none_iff regions).trans covers_iff, fun gap found => ?_, ?_⟩
  · rcases gap?_eq_some found with ⟨key, least, rfl⟩ | ⟨own, region, least, rfl⟩
    · exact .inl ⟨key, least, rfl⟩
    · exact .inr ⟨own, region, least, rfl⟩
  · rintro draft files later job j v built reached passed given rfl
    exact Workspace.distances_validated built reached passed given

theorem MaximumDistance.coverage_volcanic : ∃ job v d x,
    Workspace.volcanic.build ⟨[], []⟩ = .ok job ∧
      (Workspace.mk ⟨[], []⟩ (job.setRegions (SortedSet.ofList ["Volcanic"]))).validate = (.ok (), v) ∧
      v.job.params.maximumDistance = some d ∧ d.get? "Volcanic" = some x ∧
      Binary64.zero.numericLt x = true := by
  have computed : ((Workspace.volcanic.build ⟨[], []⟩).toOption.any fun job =>
      let left := (Workspace.mk ⟨[], []⟩ (job.setRegions (SortedSet.ofList ["Volcanic"]))).validate
      left.1.isOk && left.2.job.params.maximumDistance.isSome &&
        left.2.job.regions.members.contains "Volcanic") = true := by decide +kernel
  obtain ⟨job, built, found⟩ := any_toOption_iff.mp computed
  simp only [Bool.and_eq_true, Option.isSome_iff_exists, List.contains_iff_mem] at found
  obtain ⟨⟨valid, d, given⟩, member⟩ := found
  obtain ⟨x, found, positive⟩ := (d.coverage _).2.2 _ _ _ _ _ _ built (.setRegions _ .start)
    (Prod.ext (isOk_iff.mp valid) rfl) given rfl "Volcanic" member
  exact ⟨job, _, d, x, built, Prod.ext (isOk_iff.mp valid) rfl, given, found, positive⟩

end HazardJob
