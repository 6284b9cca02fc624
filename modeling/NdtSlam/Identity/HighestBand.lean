import Mathlib.Data.List.GetD
import NdtSlam.Foundation.KeyedSort
import NdtSlam.Identity.VerticalEvidence

/-! The top of a cargo is that of the highest band of points that is supported. -/

namespace NdtSlam

section Medians

def AllFinite (values : List Scalar) : Prop := ∀ value ∈ values, value.isFinite = true

variable {values others : List Scalar}

theorem le_iff_value {a b : Scalar} (first : a.isFinite = true) (second : b.isFinite = true) :
    a ≤ b ↔ a.value ≤ b.value := by
  obtain ⟨p, rfl⟩ := Scalar.isFinite_iff.1 first
  obtain ⟨q, rfl⟩ := Scalar.isFinite_iff.1 second
  exact Scalar.fin_le_fin

theorem medianOf_perm (finite : AllFinite values) (perm : values.Perm others) :
    medianOf values = medianOf others := by
  -- Finite values are sorted by their numbers, so the order they come in is forgotten.
  have follows : Follows (· ≤ ·) Scalar.value values := fun first inside second inside' =>
    le_iff_value (finite first inside) (finite second inside')
  have sorted : values.insertionSort (· ≤ ·) = others.insertionSort (· ≤ ·) := by
    refine follows.sort_perm (fun first inside second inside' equal => ?_) perm
    obtain ⟨p, rfl⟩ := Scalar.isFinite_iff.1 (finite first inside)
    obtain ⟨q, rfl⟩ := Scalar.isFinite_iff.1 (finite second inside')
    exact congrArg Scalar.fin equal
  unfold medianOf
  rw [sorted, perm.length_eq]

theorem le_medianOf {low : ℚ} (occupied : values ≠ [])
    (each : ∀ value ∈ values, ∃ q : ℚ, low ≤ q ∧ value = .fin q) :
    ∃ q : ℚ, low ≤ q ∧ medianOf values = .fin q := by
  have read : ∀ place < values.length, ∃ q : ℚ, low ≤ q ∧
      (values.insertionSort (· ≤ ·)).getD place 0 = .fin q := by
    intro place within
    rw [← List.length_insertionSort (· ≤ ·) values] at within
    rw [List.getD_eq_getElem _ 0 within]
    exact each _ ((List.mem_insertionSort (· ≤ ·)).mp (List.getElem_mem within))
  have positive := List.length_pos_iff.mpr occupied
  obtain ⟨upper, above, upperEq⟩ := read (values.length / 2) (by omega)
  obtain ⟨lower, above', lowerEq⟩ := read (values.length / 2 - 1) (by omega)
  unfold medianOf
  dsimp only
  rw [upperEq, lowerEq]
  split_ifs
  · exact ⟨0.5 * (lower + upper), by linarith, rfl⟩
  · exact ⟨upper, above, rfl⟩

theorem ofNat_div_mono {fewer more size : Nat} (le : fewer ≤ more) (positive : 0 < size) :
    Scalar.ofNat fewer / Scalar.ofNat size ≤ Scalar.ofNat more / Scalar.ofNat size := by
  have nonzero : (size : ℚ) ≠ 0 := Nat.cast_ne_zero.mpr positive.ne'
  have quotient : ∀ count : Nat,
      Scalar.ofNat count / Scalar.ofNat size = .fin (count / size) := fun count =>
    if_neg nonzero
  rw [quotient, quotient, Scalar.fin_le_fin]
  exact div_le_div_of_nonneg_right (Nat.cast_le.mpr le) (Nat.cast_nonneg _)

theorem lt_sub_of_le {low high height : Scalar} {z : Scalar} (finite : low.isFinite = true)
    (finite' : high.isFinite = true) (finite'' : height.isFinite = true) (le : low ≤ high)
    (below : z < low - height) : z < high - height := by
  obtain ⟨p, rfl⟩ := Scalar.isFinite_iff.1 finite
  obtain ⟨q, rfl⟩ := Scalar.isFinite_iff.1 finite'
  obtain ⟨r, rfl⟩ := Scalar.isFinite_iff.1 finite''
  rw [Scalar.fin_sub_fin] at below ⊢
  rw [Scalar.fin_le_fin] at le
  cases z with
  | nan => exact absurd below (by simp [LT.lt, Scalar.lt])
  | posInf => exact absurd below (by simp [LT.lt, Scalar.lt])
  | negInf => rfl
  | fin z =>
    rw [Scalar.fin_lt_fin] at below ⊢
    linarith

end Medians

section Surfaces

variable {input other : CargoVerticalEvidenceInput} {config : CargoVerticalEvidenceConfig}

/-- Inputs that differ in their points only. -/
def SameFootprint (input other : CargoVerticalEvidenceInput) : Prop :=
  ∃ points cloud, other = { input with
    selectedPointsBase := points
    selectedCloudBase := cloud }

def rawPoints (input : CargoVerticalEvidenceInput) : List Vec3 :=
  input.selectedCloudBase.getD input.selectedPointsBase

theorem SameFootprint.symm (same : SameFootprint input other) : SameFootprint other input := by
  obtain ⟨points, cloud, rfl⟩ := same
  exact ⟨_, _, rfl⟩

theorem SameFootprint.ground (same : SameFootprint input other) :
    groundUsable other config = groundUsable input config := by
  obtain ⟨points, cloud, rfl⟩ := same
  rfl

theorem slabMinZ_finite {top : Scalar} (usable : verticalConfigUsable config = true)
    (finite : top.isFinite = true) : (slabMinZ input config top).isFinite = true := by
  unfold verticalConfigUsable finitePositive at usable
  simp only [Bool.and_eq_true] at usable
  unfold slabMinZ
  split_ifs with thick grounded
  · unfold thicknessUsable finitePositive at thick
    simp only [Bool.and_eq_true] at thick
    simp [Scalar.sub_isFinite, finite, thick, usable]
  · unfold groundUsable at grounded
    simp only [Bool.and_eq_true] at grounded
    simp [Scalar.add_isFinite, grounded]
  · simp [Scalar.sub_isFinite, finite, usable]

variable [IdentityMath] {candidates band bigger : List Vec3} {point : Vec3}

theorem bandSupported_mono (more : band.Subperm bigger)
    (supported : bandSupported input config band = true) :
    bandSupported input config bigger = true := by
  have cells : (bandCells input config band).length ≤ (bandCells input config bigger).length := by
    refine (List.subperm_of_subset (List.nodup_dedup _) fun cell member => ?_).length_le
    obtain ⟨point, inside, rfl⟩ := List.mem_map.mp (List.mem_dedup.mp member)
    exact List.mem_dedup.mpr (List.mem_map_of_mem (more.subset inside))
  unfold bandSupported at supported ⊢
  simp only [Bool.and_eq_true, decide_eq_true_eq] at supported ⊢
  exact ⟨⟨supported.1.1.trans more.length_le, supported.1.2.trans cells⟩,
    Scalar.le_trans supported.2
      (ofNat_div_mono cells (Nat.lt_of_lt_of_le one_pos (le_max_left 1 _)))⟩

theorem supportedBand_some (finite : ∀ point ∈ candidates, point.z.isFinite = true)
    (found : supportedBand input config candidates = some band) :
    ∃ point ∈ candidates, band = bandPoints config candidates point.z ∧
      bandSupported input config band = true ∧ ∀ other ∈ candidates,
        bandSupported input config (bandPoints config candidates other.z) = true →
          other.z ≤ point.z := by
  unfold supportedBand at found
  dsimp only at found
  rw [List.find?_map, Option.map_eq_some_iff] at found
  obtain ⟨z, first, rfl⟩ := found
  obtain ⟨supported, above, below, split, failed⟩ := List.find?_eq_some_iff_append.mp first
  have heights : ∀ z, z ∈ (candidates.map (·.z)).insertionSort (· ≥ ·) ↔
      ∃ point ∈ candidates, point.z = z := fun z => by
    rw [List.mem_insertionSort, List.mem_map]
  obtain ⟨point, inside, rfl⟩ := (heights z).mp (by simp [split])
  refine ⟨point, inside, rfl, supported, fun other inside' supported' => ?_⟩
  have follows : Follows (· ≥ ·) (fun z : Scalar => OrderDual.toDual z.value)
      (candidates.map (·.z)) := by
    intro first member second member'
    obtain ⟨_, among, rfl⟩ := List.mem_map.mp member
    obtain ⟨_, among', rfl⟩ := List.mem_map.mp member'
    exact le_iff_value (finite _ among') (finite _ among)
  have sorted := follows.pairwise
  rw [split, List.pairwise_append] at sorted
  -- A supported height is not among those that failed before, so it comes later.
  have place := (heights other.z).mpr ⟨other, inside', rfl⟩
  rw [split] at place
  rcases List.mem_append.mp place with before | after
  · exact absurd supported' (by simpa using failed _ before)
  · rcases List.mem_cons.mp after with same | later
    · rw [same]
      exact Scalar.le_refl_of_finite (finite _ inside)
    · exact (le_iff_value (finite _ inside') (finite _ inside)).mpr
        (List.rel_of_pairwise_cons sorted.2.1 later)

section Candidates

variable (input : CargoVerticalEvidenceInput) (config : CargoVerticalEvidenceConfig)

def footprintPoints : List Vec3 :=
  input.pointsInside config.footprintMarginM
    (input.selectedCloudBase.getD input.selectedPointsBase)

def verticalCandidates : List Vec3 :=
  if groundUsable input config then
    (footprintPoints input config).filter fun point =>
      config.groundHagMinM ≤ point.z - input.groundZBase &&
        point.z - input.groundZBase ≤ config.groundHagMaxM
  else footprintPoints input config

/-- An input and a configuration that the extraction does not reject at once. -/
def Usable : Prop :=
  footprintUsable input = true ∧ verticalConfigUsable config = true ∧
    (!input.selectedPointsBase.isEmpty && input.selectedCloudBase.isSome) = false

def bandAt (point : Vec3) : List Vec3 :=
  bandPoints config (verticalCandidates input config) point.z

/-- A candidate on top of a band that is supported. -/
def TopsBand (point : Vec3) : Prop :=
  point ∈ verticalCandidates input config ∧
    bandSupported input config (bandAt input config point) = true

/-- A candidate on top of the highest band that is supported. -/
structure HighestTop (point : Vec3) : Prop where
  tops : TopsBand input config point
  highest : ∀ other, TopsBand input config other → other.z ≤ point.z

def evidenceAmong (candidates : List Vec3) : CargoVerticalEvidence :=
  let evidence : CargoVerticalEvidence := {
    footprintPoints := (footprintPoints input config).length
    groundFilterUsed := groundUsable input config }
  if (footprintPoints input config).isEmpty then
    { rejectReason := "no_finite_points_in_footprint" }
  else if candidates.isEmpty then
    { evidence with rejectReason := "ground_filter_removed_all_points" }
  else
    let filtered := { evidence with filteredVerticalPointsBase := candidates }
    match supportedBand input config candidates with
    | none => { filtered with rejectReason := "no_supported_upper_surface" }
    | some band => reportSurface input config candidates band filtered

end Candidates

theorem extract_eq (usable : Usable input config) :
    extractCargoVerticalEvidence input config =
      evidenceAmong input config (verticalCandidates input config) := by
  obtain ⟨footprint, configured, source⟩ := usable
  unfold extractCargoVerticalEvidence
  rw [footprint, configured, source]
  rfl

theorem mem_inside_of_candidate (inside : point ∈ verticalCandidates input config) :
    point ∈ footprintPoints input config := by
  unfold verticalCandidates at inside
  split_ifs at inside with grounded
  · exact List.mem_of_mem_filter inside
  · exact inside

theorem candidate_inside (inside : point ∈ verticalCandidates input config) :
    point.z.isFinite = true ∧
      input.cargoPointInsideFootprint point config.footprintMarginM = true := by
  have kept := (List.mem_filter.mp (mem_inside_of_candidate inside)).2
  rw [Bool.and_eq_true] at kept
  exact ⟨(Vec3.allFinite_iff.1 kept.1).2.2, kept.2⟩

theorem highest_of_some
    (found : supportedBand input config (verticalCandidates input config) = some band) :
    ∃ point, HighestTop input config point ∧ band = bandAt input config point := by
  obtain ⟨point, inside, rfl, supported, highest⟩ :=
    supportedBand_some (fun point inside => (candidate_inside inside).1) found
  exact ⟨point, ⟨⟨inside, supported⟩, fun other tops => highest other tops.1 tops.2⟩, rfl⟩

theorem supportedBand_none :
    supportedBand input config (verticalCandidates input config) = none ↔
      ∀ point, ¬TopsBand input config point := by
  unfold supportedBand TopsBand bandAt
  simp

theorem TopsBand.exists_highest (tops : TopsBand input config point) :
    ∃ top, HighestTop input config top := by
  cases found : supportedBand input config (verticalCandidates input config) with
  | none => exact absurd tops (supportedBand_none.1 found point)
  | some band =>
    obtain ⟨top, highest, -⟩ := highest_of_some found
    exact ⟨top, highest⟩

theorem HighestTop.found (top : HighestTop input config point) :
    supportedBand input config (verticalCandidates input config) =
      some (bandAt input config point) := by
  cases found : supportedBand input config (verticalCandidates input config) with
  | none => exact absurd top.tops (supportedBand_none.1 found point)
  | some band =>
    obtain ⟨other, highest, rfl⟩ := highest_of_some found
    -- Neither of two highest candidates is above the other.
    obtain ⟨p, first⟩ := Scalar.isFinite_iff.1 (candidate_inside top.tops.1).1
    obtain ⟨q, second⟩ := Scalar.isFinite_iff.1 (candidate_inside highest.tops.1).1
    have low := top.highest other highest.tops
    have high := highest.highest point top.tops
    rw [first, second, Scalar.fin_le_fin] at low high
    rw [bandAt, bandAt, first, second, le_antisymm low high]

theorem HighestTop.evidence (top : HighestTop input config point) :
    evidenceAmong input config (verticalCandidates input config) =
      reportSurface input config (verticalCandidates input config) (bandAt input config point) {
        footprintPoints := (footprintPoints input config).length
        groundFilterUsed := groundUsable input config
        filteredVerticalPointsBase := verticalCandidates input config } := by
  have occupied := List.ne_nil_of_mem (mem_inside_of_candidate top.tops.1)
  have occupied' := List.ne_nil_of_mem top.tops.1
  unfold evidenceAmong
  dsimp only
  rw [if_neg (by simpa using occupied), if_neg (by simpa using occupied'), top.found]

theorem evidence_none (none : ∀ point, ¬TopsBand input config point) :
    (evidenceAmong input config (verticalCandidates input config)).topZBase = .nan ∧
      (evidenceAmong input config (verticalCandidates input config)).cleanVerticalPointsBase =
        [] := by
  unfold evidenceAmong
  dsimp only
  rw [supportedBand_none.2 none]
  split_ifs <;> exact ⟨rfl, rfl⟩

section Rearranged

/-- The results of an extraction that are no lists. -/
def scalarResults (evidence : CargoVerticalEvidence) : CargoVerticalEvidence :=
  { evidence with
    filteredVerticalPointsBase := []
    topSupportPointsBase := []
    topSurfaceCellIndices := []
    cleanVerticalPointsBase := [] }

structure SameTop (evidence other : CargoVerticalEvidence) : Prop where
  top : other.topZBase = evidence.topZBase
  points : other.topSupportPoints = evidence.topSupportPoints
  cells : other.topSurfaceCells = evidence.topSurfaceCells
  coverage : other.topSurfaceCoverage = evidence.topSurfaceCoverage
  indices : other.topSurfaceCellIndices.Perm evidence.topSurfaceCellIndices

variable {extra : List Vec3}

theorem exists_keep (input : CargoVerticalEvidenceInput) (config : CargoVerticalEvidenceConfig) :
    ∃ keep, ∀ other, SameFootprint input other →
      verticalCandidates other config = (rawPoints other).filter keep := by
  by_cases grounded : groundUsable input config = true
  · refine ⟨fun point => (config.groundHagMinM ≤ point.z - input.groundZBase &&
      point.z - input.groundZBase ≤ config.groundHagMaxM) && (point.allFinite &&
        input.cargoPointInsideFootprint point config.footprintMarginM), ?_⟩
    rintro other ⟨points, cloud, rfl⟩
    exact (if_pos grounded).trans List.filter_filter
  · refine ⟨fun point => point.allFinite &&
      input.cargoPointInsideFootprint point config.footprintMarginM, ?_⟩
    rintro other ⟨points, cloud, rfl⟩
    exact if_neg grounded

theorem SameFootprint.supported (same : SameFootprint input other) :
    bandSupported other config band = bandSupported input config band := by
  obtain ⟨points, cloud, rfl⟩ := same
  rfl

theorem HighestTop.added (top : HighestTop input config point) (same : SameFootprint input other)
    (more : (rawPoints input).Subperm (rawPoints other)) :
    ∃ higher, HighestTop other config higher ∧ point.z ≤ higher.z := by
  obtain ⟨keep, filtered⟩ := exists_keep input config
  have candidates :
      (verticalCandidates input config).Subperm (verticalCandidates other config) := by
    rw [filtered input ⟨_, _, rfl⟩, filtered other same]
    exact more.filter keep
  have tops : TopsBand other config point := by
    refine ⟨candidates.subset top.tops.1, ?_⟩
    rw [same.supported]
    exact bandSupported_mono (candidates.filter _) top.tops.2
  obtain ⟨higher, highest⟩ := tops.exists_highest
  exact ⟨higher, highest, highest.highest point tops⟩

theorem bandAt_below (same : SameFootprint input other)
    (perm : (rawPoints other).Perm (extra ++ rawPoints input))
    (below : ∀ low ∈ extra, low.z < point.z - config.surfaceBandHeightM) :
    (bandAt other config point).Perm (bandAt input config point) := by
  obtain ⟨keep, filtered⟩ := exists_keep input config
  unfold bandAt bandPoints
  rw [filtered input ⟨_, _, rfl⟩, filtered other same]
  refine ((perm.filter keep).filter _).trans ?_
  rw [List.filter_append, List.filter_append]
  have dropped : (extra.filter keep).filter (fun low =>
      !(low.z < point.z - config.surfaceBandHeightM || point.z + 1.0e-4 < low.z)) = [] := by
    rw [List.filter_eq_nil_iff]
    intro low member
    simp [below low (List.mem_of_mem_filter member)]
  rw [dropped, List.nil_append]

theorem HighestTop.below (top : HighestTop input config point) (same : SameFootprint input other)
    (height : finitePositive config.surfaceBandHeightM = true)
    (perm : (rawPoints other).Perm (extra ++ rawPoints input))
    (below : ∀ low ∈ extra, low.z < point.z - config.surfaceBandHeightM) :
    HighestTop other config point := by
  obtain ⟨keep, filtered⟩ := exists_keep input config
  obtain ⟨finite, positive⟩ := Bool.and_eq_true_iff.mp height
  have candidates := perm.filter keep
  rw [List.filter_append, ← filtered input ⟨_, _, rfl⟩, ← filtered other same] at candidates
  have supported : ∀ other', (bandAt other config other').Perm (bandAt input config other') →
      (bandSupported other config (bandAt other config other') = true ↔
        bandSupported input config (bandAt input config other') = true) := fun other' bands => by
    rw [same.supported]
    exact ⟨bandSupported_mono bands.subperm, bandSupported_mono bands.symm.subperm⟩
  refine ⟨⟨candidates.mem_iff.mpr (List.mem_append_right _ top.tops.1),
    (supported point (bandAt_below same perm below)).mpr top.tops.2⟩, fun other' tops => ?_⟩
  by_contra higher
  have finite' := (candidate_inside tops.1).1
  have finite'' := (candidate_inside top.tops.1).1
  have above : point.z ≤ other'.z := by
    rw [le_iff_value finite' finite''] at higher
    exact (le_iff_value finite'' finite').mpr (not_le.mp higher).le
  have below' : ∀ low ∈ extra, low.z < other'.z - config.surfaceBandHeightM := fun low member =>
    lt_sub_of_le finite'' finite' finite above (below low member)
  rcases List.mem_append.mp (candidates.mem_iff.mp tops.1) with low | inside
  · -- A point above the band is none of those below it.
    have under := below' other' (List.mem_of_mem_filter low)
    obtain ⟨p, first⟩ := Scalar.isFinite_iff.1 finite'
    obtain ⟨q, second⟩ := Scalar.isFinite_iff.1 finite
    rw [first, second, Scalar.fin_sub_fin, Scalar.fin_lt_fin] at under
    rw [second] at positive
    have := Scalar.fin_lt_fin.1 (of_decide_eq_true positive)
    linarith
  · exact higher (top.highest other'
      ⟨inside, (supported other' (bandAt_below same perm below')).mp tops.2⟩)

theorem SameTop.of_perm {evidence evidence' : CargoVerticalEvidence} {others band' : List Vec3}
    (same : SameFootprint input other) (finite : ∀ point ∈ band, point.z.isFinite = true)
    (perm : band.Perm band') :
    SameTop (reportSurface input config candidates band evidence)
      (reportSurface other config others band' evidence') := by
  obtain ⟨points, cloud, rfl⟩ := same
  have cells : (bandCells input config band).Perm (bandCells input config band') :=
    (perm.map _).dedup
  have coverage : bandCoverage input config band = bandCoverage input config band' := by
    unfold bandCoverage
    rw [cells.length_eq]
  refine ⟨(medianOf_perm ?_ (perm.map _)).symm, perm.symm.length_eq, cells.symm.length_eq,
    congrArg (Scalar.minOf 1) coverage.symm, cells.symm⟩
  intro value member
  obtain ⟨point, inside, rfl⟩ := List.mem_map.mp member
  exact finite point inside

theorem bandAt_finite {top : Vec3} (inside : point ∈ bandAt input config top) :
    point.z.isFinite = true := (candidate_inside (List.mem_of_mem_filter inside)).1

theorem report_perm {size : Nat} {grounded : Bool} {others band' kept kept' : List Vec3}
    (same : SameFootprint input other) (finite : ∀ point ∈ band, point.z.isFinite = true)
    (perm : band.Perm band') (among : others.Perm candidates) :
    scalarResults (reportSurface other config others band' {
        footprintPoints := size
        groundFilterUsed := grounded
        filteredVerticalPointsBase := kept' }) =
      scalarResults (reportSurface input config candidates band {
        footprintPoints := size
        groundFilterUsed := grounded
        filteredVerticalPointsBase := kept }) := by
  have slab : slabMinZ other config = slabMinZ input config ∧
      thicknessUsable other = thicknessUsable input := by
    obtain ⟨points, cloud, rfl⟩ := same
    exact ⟨rfl, rfl⟩
  obtain ⟨top, points, cells, coverage, -⟩ :=
    @SameTop.of_perm _ _ config _ candidates _ {} {} others _ same finite perm
  unfold reportSurface at top points cells coverage
  unfold scalarResults reportSurface
  dsimp only at top points cells coverage ⊢
  rw [top, points, cells, coverage, slab.1, slab.2, (among.filter _).isEmpty_eq, among.countP_eq]

theorem evidence_perm (same : SameFootprint input other)
    (height : finitePositive config.surfaceBandHeightM = true)
    (perm : (rawPoints other).Perm (rawPoints input)) :
    scalarResults (evidenceAmong other config (verticalCandidates other config)) =
      scalarResults (evidenceAmong input config (verticalCandidates input config)) ∧
    (evidenceAmong other config (verticalCandidates other config)).topSurfaceCellIndices.Perm
      (evidenceAmong input config (verticalCandidates input config)).topSurfaceCellIndices := by
  have inside : (footprintPoints other config).Perm (footprintPoints input config) := by
    obtain ⟨points, cloud, rfl⟩ := same
    exact perm.filter _
  have among : (verticalCandidates other config).Perm (verticalCandidates input config) := by
    obtain ⟨keep, filtered⟩ := exists_keep input config
    rw [filtered other same, filtered input ⟨_, _, rfl⟩]
    exact perm.filter keep
  have moved : ∀ point, HighestTop input config point → HighestTop other config point :=
    fun point top => @HighestTop.below _ _ _ _ point [] top same height perm (by simp)
  cases found : supportedBand input config (verticalCandidates input config) with
  | some band =>
    obtain ⟨point, top, rfl⟩ := highest_of_some found
    have bands := (@bandAt_below _ _ config _ point [] same perm (by simp)).symm
    rw [top.evidence, (moved point top).evidence, inside.length_eq, same.ground]
    exact ⟨report_perm same (fun _ => bandAt_finite) bands among,
      (SameTop.of_perm same (fun _ => bandAt_finite) bands).indices⟩
  | none =>
    have found' : supportedBand other config (verticalCandidates other config) = none := by
      rw [supportedBand_none] at found ⊢
      intro point tops
      obtain ⟨top, highest⟩ := tops.exists_highest
      exact found top (@HighestTop.below _ _ _ _ top [] highest same.symm height perm.symm
        (by simp)).tops
    unfold evidenceAmong
    dsimp only
    rw [found, found', inside.isEmpty_eq, among.isEmpty_eq, inside.length_eq, same.ground]
    split_ifs <;> exact ⟨rfl, .refl _⟩

end Rearranged

theorem HighestTop.median (top : HighestTop input config point)
    (height : finitePositive config.surfaceBandHeightM = true) :
    ∃ low high : ℚ, low ≤ high ∧ point.z - config.surfaceBandHeightM = .fin low ∧
      medianOf ((bandAt input config point).map (·.z)) = .fin high := by
  obtain ⟨finite, positive⟩ := Bool.and_eq_true_iff.mp height
  obtain ⟨z, level⟩ := Scalar.isFinite_iff.1 (candidate_inside top.tops.1).1
  obtain ⟨h, tall⟩ := Scalar.isFinite_iff.1 finite
  rw [tall] at positive
  have tallPositive : 0 < h := Scalar.fin_lt_fin.1 (of_decide_eq_true positive)
  have bottom : point.z - config.surfaceBandHeightM = .fin (z - h) := by
    rw [level, tall, Scalar.fin_sub_fin]
  have inside : point ∈ bandAt input config point := by
    refine List.mem_filter.mpr ⟨top.tops.1, ?_⟩
    rw [bottom, level]
    have above : z ≤ z + 1.0e-4 := le_add_of_nonneg_right (by norm_num)
    have slack : Scalar.fin z + 1.0e-4 = .fin (z + 1.0e-4) := rfl
    rw [Bool.not_eq_true', Bool.or_eq_false_iff, decide_eq_false_iff_not, decide_eq_false_iff_not,
      slack, Scalar.fin_lt_fin, Scalar.fin_lt_fin, not_lt, not_lt]
    exact ⟨sub_le_self z tallPositive.le, above⟩
  obtain ⟨high, le, equal⟩ := @le_medianOf ((bandAt input config point).map (·.z)) (z - h)
    (List.ne_nil_of_mem (List.mem_map_of_mem inside)) (by
      intro value member
      obtain ⟨low, among, rfl⟩ := List.mem_map.mp member
      obtain ⟨q, same⟩ := Scalar.isFinite_iff.1 (bandAt_finite among)
      have within := (List.mem_filter.mp among).2
      rw [bottom, same, Bool.not_eq_true', Bool.or_eq_false_iff, decide_eq_false_iff_not,
        Scalar.fin_lt_fin, not_lt] at within
      exact ⟨q, within.1, same⟩)
  exact ⟨z - h, high, le, bottom, equal⟩

/-- What the top of a cargo is, and what it does not depend on. -/
structure TopOfHighestBand (input : CargoVerticalEvidenceInput)
    (config : CargoVerticalEvidenceConfig) : Prop where
  reported : (extractCargoVerticalEvidence input config).topZBase.isFinite = true ↔
    ∃ point, TopsBand input config point
  largest : (∃ point, TopsBand input config point) → ∃ point, HighestTop input config point
  median : ∀ point, HighestTop input config point →
    (extractCargoVerticalEvidence input config).topZBase =
        medianOf ((bandAt input config point).map (·.z)) ∧
      point.z - config.surfaceBandHeightM ≤ (extractCargoVerticalEvidence input config).topZBase
  added : ∀ other, SameFootprint input other → (rawPoints input).Subperm (rawPoints other) →
    ∀ point, HighestTop input config point →
      ∃ higher, HighestTop other config higher ∧ point.z ≤ higher.z
  below : ∀ other extra point, SameFootprint input other → Usable other config →
    (rawPoints other).Perm (extra ++ rawPoints input) → HighestTop input config point →
    (∀ low ∈ extra, low.z < point.z - config.surfaceBandHeightM) →
      SameTop (extractCargoVerticalEvidence input config)
        (extractCargoVerticalEvidence other config)
  permuted : ∀ other, SameFootprint input other → Usable other config →
    (rawPoints other).Perm (rawPoints input) →
      scalarResults (extractCargoVerticalEvidence other config) =
        scalarResults (extractCargoVerticalEvidence input config) ∧
      (extractCargoVerticalEvidence other config).topSurfaceCellIndices.Perm
        (extractCargoVerticalEvidence input config).topSurfaceCellIndices
  clean : ∀ point ∈ (extractCargoVerticalEvidence input config).cleanVerticalPointsBase,
    input.cargoPointInsideFootprint point config.footprintMarginM = true ∧
      slabMinZ input config (extractCargoVerticalEvidence input config).topZBase ≤ point.z ∧
      point.z ≤ (extractCargoVerticalEvidence input config).topZBase +
        config.surfaceBandHeightM

/-- The top of a cargo is that of the highest supported band, whatever else is seen. -/
theorem top_of_highest_band (usable : Usable input config) : TopOfHighestBand input config := by
  have height : finitePositive config.surfaceBandHeightM = true := by
    have configured := usable.2.1
    unfold verticalConfigUsable at configured
    simp only [Bool.and_eq_true] at configured
    simp [configured]
  have shown : ∀ point, HighestTop input config point →
      (extractCargoVerticalEvidence input config).topZBase =
        medianOf ((bandAt input config point).map (·.z)) := fun point top => by
    rw [extract_eq usable, top.evidence]
    rfl
  refine ⟨⟨fun finite => ?_, ?_⟩, fun ⟨_, tops⟩ => tops.exists_highest, fun point top => ?_,
    fun other same more point top => top.added same more,
    fun other extra point same usable' perm top below => ?_,
    fun other same usable' perm => ?_, ?_⟩
  · by_contra nowhere
    rw [extract_eq usable, (evidence_none (not_exists.mp nowhere)).1] at finite
    cases finite
  · rintro ⟨_, tops⟩
    obtain ⟨point, top⟩ := tops.exists_highest
    obtain ⟨-, high, -, -, equal⟩ := top.median height
    rw [shown point top, equal]
    rfl
  · obtain ⟨low, high, le, bottom, equal⟩ := top.median height
    refine ⟨shown point top, ?_⟩
    rw [shown point top, bottom, equal]
    exact Scalar.fin_le_fin.2 le
  · rw [extract_eq usable, extract_eq usable', top.evidence,
      (top.below same height perm below).evidence]
    exact SameTop.of_perm same (fun _ => bandAt_finite) (bandAt_below same perm below).symm
  · rw [extract_eq usable, extract_eq usable']
    exact evidence_perm same height perm
  · intro point member
    by_cases somewhere : ∃ point, TopsBand input config point
    · obtain ⟨_, tops⟩ := somewhere
      obtain ⟨highest, top⟩ := tops.exists_highest
      obtain ⟨-, high, -, -, equal⟩ := top.median height
      rw [shown highest top, equal]
      rw [extract_eq usable, top.evidence] at member
      obtain ⟨candidate, within⟩ := List.mem_filter.mp member
      obtain ⟨slab, bottom⟩ := Scalar.isFinite_iff.1
        (@slabMinZ_finite input config (.fin high) usable.2.1 rfl)
      obtain ⟨q, level⟩ := Scalar.isFinite_iff.1 (candidate_inside candidate).1
      rw [equal, Bool.and_eq_true, Bool.not_eq_true', decide_eq_false_iff_not, bottom, level,
        Scalar.fin_lt_fin, not_lt] at within
      rw [bottom, level]
      exact ⟨(candidate_inside candidate).2, Scalar.fin_le_fin.2 within.1,
        of_decide_eq_true within.2⟩
    · rw [extract_eq usable, (evidence_none (not_exists.mp somewhere)).2] at member
      cases member

end Surfaces

def plate : CargoVerticalEvidenceInput where
  selectedPointsBase := [⟨0, 0, 2⟩, ⟨0.2, 0, 2⟩, ⟨0.1, 0, 3⟩]
  footprintValid := true
  footprintSizeXy := ⟨1, 1⟩

attribute [local instance] axisMath

theorem plate_top : TopOfHighestBand plate { minimumSurfacePoints := 2 } ∧
    TopsBand plate { minimumSurfacePoints := 2 } ⟨0, 0, 2⟩ :=
  ⟨top_of_highest_band ⟨by decide, by with_unfolding_all decide, rfl⟩,
    ⟨by with_unfolding_all decide, by with_unfolding_all decide⟩⟩

end NdtSlam
