import Mathlib.Algebra.Order.BigOperators.Group.List
import NdtSlam.Foundation.KeyedSort
import NdtSlam.Foundation.SortedChains
import NdtSlam.StaticEvidence.Query

/-! The heights of a static map, gathered into a few layers for each cell. -/

namespace NdtSlam

structure StaticHeightFieldConfig where
  cellSizeM : Scalar := 0.25
  zBinM : Scalar := 0.10
  maximumLayersPerCell : Nat := 3
  minimumPointsPerLayer : Nat := 6
  maximumMergeGapM : Scalar := 0.18
  groundFitMinZM : Scalar := -0.25
  groundFitMaxZM : Scalar := 0.25
  supportNeighborInnerM : Scalar := 0.30
  supportNeighborOuterM : Scalar := 0.80
  minimumSupportUncertaintyM : Scalar := 0.08
  maximumSupportUncertaintyM : Scalar := 0.25
  maximumQueryAreaCells : Nat := 4096

structure StaticHeightLayer where
  zLow : ℚ
  zHigh : ℚ
  z05 : ℚ
  z50 : ℚ
  z95 : ℚ
  roughnessM : ℚ
  uncertaintyM : ℚ
  pointCount : Nat
  observationCount : Nat
  authority : StaticEvidenceAuthority

structure StaticHeightCell where
  key : Int
  layers : List StaticHeightLayer

structure StaticHeightLayers where
  cells : List StaticHeightCell := []
  finiteObjectPoints : Nat := 0
  occupiedCells : Nat := 0
  layerCount : Nat := 0
  reason : String := "not_built"

/-- The root of the standard library, which is irrational in general and therefore given. -/
class HeightMath where
  sqrt : ℚ → ℚ

namespace StaticHeightField

def validConfig (config : StaticHeightFieldConfig) : Bool :=
  config.cellSizeM.isFinite && 0 < config.cellSizeM && config.zBinM.isFinite &&
    0 < config.zBinM && 0 < config.maximumLayersPerCell && config.maximumLayersPerCell ≤ 8 &&
    0 < config.minimumPointsPerLayer && config.maximumMergeGapM.isFinite &&
    config.zBinM ≤ config.maximumMergeGapM && config.groundFitMinZM < config.groundFitMaxZM &&
    config.supportNeighborInnerM ≤ config.supportNeighborOuterM &&
    0 < config.minimumSupportUncertaintyM &&
    config.minimumSupportUncertaintyM ≤ config.maximumSupportUncertaintyM &&
    0 < config.maximumQueryAreaCells

def setConfig (config : StaticHeightFieldConfig) : StaticHeightFieldConfig :=
  if validConfig config then config else {}

section Build

variable [HeightMath] (config : StaticHeightFieldConfig) (observationCount : Nat)
  (authority : StaticEvidenceAuthority)

def keyFor (point : Vec3) : Int :=
  StaticObstacleEvidenceIndex.packStaticEvidenceCell ⌊(point.x / config.cellSizeM).value⌋
    ⌊(point.y / config.cellSizeM).value⌋

def cellHeights (points : List Vec3) (key : Int) : List ℚ :=
  ((points.filter (·.allFinite)).filter (keyFor config · = key)).map (·.z.value)

def keptChains (heights : List ℚ) : List (List ℚ) :=
  let clusters := gapChains config.maximumMergeGapM.value (heights.insertionSort (· ≤ ·))
  let large := clusters.filter fun cluster =>
    !(cluster.length < config.minimumPointsPerLayer : Bool)
  if config.maximumLayersPerCell < large.length then
    ((large.insertionSort fun lhs rhs => rhs.length ≤ lhs.length).take
      config.maximumLayersPerCell).insertionSort fun lhs rhs => lhs.headD 0 ≤ rhs.headD 0
  else large

def measureLayer (cluster : List ℚ) : StaticHeightLayer :=
  let z50 := quantileOfSorted cluster 0.50
  let roughnessM :=
    HeightMath.sqrt ((cluster.map fun z => (z - z50) * (z - z50)).sum / cluster.length)
  { zLow := cluster.headD 0
    zHigh := cluster.getLastD 0
    z05 := quantileOfSorted cluster 0.05
    z50
    z95 := quantileOfSorted cluster 0.95
    roughnessM
    uncertaintyM :=
      max (0.5 * config.zBinM.value) (roughnessM / HeightMath.sqrt cluster.length)
    pointCount := cluster.length % 2 ^ 32
    observationCount
    authority }

def layersOf (points : List Vec3) (key : Int) : List StaticHeightLayer :=
  (keptChains config (cellHeights config points key)).map
    (measureLayer config observationCount authority)

def buildLayers (points : List Vec3) : StaticHeightLayers :=
  if !validConfig config then { reason := "invalid_config" }
  else
    let finite := points.filter (·.allFinite)
    let cells := (ascending (finite.map (keyFor config))).filterMap fun key =>
      let layers := layersOf config observationCount authority points key
      if layers.isEmpty then none else some ⟨key, layers⟩
    { cells
      finiteObjectPoints := finite.length
      occupiedCells := cells.length
      layerCount := (cells.map (·.layers.length)).sum }

end Build

def layersAt (field : StaticHeightLayers) (key : Int) : List StaticHeightLayer :=
  ((field.cells.find? (·.key = key)).map (·.layers)).getD []

structure Layered [HeightMath] (config : StaticHeightFieldConfig) (observationCount : Nat)
    (authority : StaticEvidenceAuthority) (heights : List ℚ) (layers : List StaticHeightLayer) :
    Prop where
  chosen : ∃ chains kept : List (List ℚ),
    MaximalChains config.maximumMergeGapM.value heights chains ∧
    layers = kept.map (measureLayer config observationCount authority) ∧
    (∀ chain ∈ kept, chain ∈ chains ∧ config.minimumPointsPerLayer ≤ chain.length) ∧
    ∀ chain ∈ chains, chain ∉ kept → chain.length < config.minimumPointsPerLayer ∨
      kept.length = config.maximumLayersPerCell ∧ ∀ other ∈ kept, chain.length ≤ other.length
  ascending : layers.Pairwise fun lower upper => lower.zHigh < upper.zLow
  quantiles : ∀ layer ∈ layers, layer.zLow ≤ layer.z05 ∧ layer.z05 ≤ layer.z50 ∧
    layer.z50 ≤ layer.z95 ∧ layer.z95 ≤ layer.zHigh
  counted : (layers.map (·.pointCount)).sum ≤ heights.length

structure SoundLayers [HeightMath] (config : StaticHeightFieldConfig) (observationCount : Nat)
    (authority : StaticEvidenceAuthority) (points : List Vec3) : Prop where
  layered : ∀ key, Layered config observationCount authority (cellHeights config points key)
    (layersAt (buildLayers config observationCount authority points) key)
  orderFree : ∀ others, points.Perm others → buildLayers config observationCount authority others =
    buildLayers config observationCount authority points

variable {config : StaticHeightFieldConfig}

theorem setConfig_valid (requested : StaticHeightFieldConfig) :
    validConfig (setConfig requested) = true := by
  unfold setConfig
  split_ifs with valid
  · exact valid
  · with_unfolding_all decide

theorem gap_nonnegative (valid : validConfig config = true) :
    0 ≤ config.maximumMergeGapM.value := by
  unfold validConfig at valid
  simp only [Bool.and_eq_true, decide_eq_true_eq] at valid
  obtain ⟨⟨⟨⟨⟨⟨⟨⟨⟨⟨⟨⟨-, binFinite⟩, positive⟩, -⟩, -⟩, -⟩, gapFinite⟩, wide⟩, -⟩, -⟩, -⟩, -⟩, -⟩ :=
    valid
  obtain ⟨bin, binIs⟩ := Scalar.isFinite_iff.1 binFinite
  obtain ⟨gap, gapIs⟩ := Scalar.isFinite_iff.1 gapFinite
  rw [binIs] at positive wide
  rw [gapIs] at wide ⊢
  exact (Scalar.fin_lt_fin.1 positive).le.trans (Scalar.fin_le_fin.1 wide)

theorem keptChains_spec (heights : List ℚ) (nonnegative : 0 ≤ config.maximumMergeGapM.value) :
    let chains := gapChains config.maximumMergeGapM.value (heights.insertionSort (· ≤ ·))
    let kept := keptChains config heights
    kept.Subperm chains ∧ kept.Pairwise Below ∧
      (∀ chain ∈ kept, config.minimumPointsPerLayer ≤ chain.length) ∧
      ∀ chain ∈ chains, chain ∉ kept → chain.length < config.minimumPointsPerLayer ∨
        kept.length = config.maximumLayersPerCell ∧
          ∀ other ∈ kept, chain.length ≤ other.length := by
  have maximal := gapChains_maximal config.maximumMergeGapM.value
    (List.pairwise_insertionSort (· ≤ ·) heights)
  have below := maximal.below nonnegative
  unfold keptChains
  generalize gapChains config.maximumMergeGapM.value (heights.insertionSort (· ≤ ·)) = chains at *
  dsimp only
  have large : ∀ chain, chain ∈ chains.filter (fun cluster =>
      !(cluster.length < config.minimumPointsPerLayer : Bool)) ↔
        chain ∈ chains ∧ config.minimumPointsPerLayer ≤ chain.length := fun chain => by
    simp
  have sublist := List.filter_sublist (l := chains)
    (p := fun cluster => !(cluster.length < config.minimumPointsPerLayer : Bool))
  generalize chains.filter (fun cluster =>
    !(cluster.length < config.minimumPointsPerLayer : Bool)) = many at *
  split_ifs with crowded
  · -- The chains are sorted by size, cut off, and sorted by height again.
    have sizes : Follows (fun lhs rhs : List ℚ => rhs.length ≤ lhs.length)
        (fun chain => OrderDual.toDual chain.length) many := fun _ _ _ _ => Iff.rfl
    have sized := sizes.pairwise
    have perm := List.perm_insertionSort (fun lhs rhs : List ℚ => rhs.length ≤ lhs.length) many
    generalize many.insertionSort (fun lhs rhs => rhs.length ≤ lhs.length) = ranked at *
    have heights : Follows (fun lhs rhs : List ℚ => lhs.headD 0 ≤ rhs.headD 0)
        (fun chain => chain.headD 0) (ranked.take config.maximumLayersPerCell) :=
      fun _ _ _ _ => Iff.rfl
    have heads := heights.pairwise
    have perm' := List.perm_insertionSort (fun lhs rhs : List ℚ => lhs.headD 0 ≤ rhs.headD 0)
      (ranked.take config.maximumLayersPerCell)
    generalize (ranked.take config.maximumLayersPerCell).insertionSort
      (fun lhs rhs => lhs.headD 0 ≤ rhs.headD 0) = kept at *
    have among : kept.Subperm chains := perm'.subperm.trans
      ((List.take_sublist _ ranked).subperm.trans (perm.subperm.trans sublist.subperm))
    refine ⟨among, Below.pairwise_of_heads below maximal.nonempty among heads, ?_, ?_⟩
    · intro chain inside
      exact ((large chain).mp (perm.subset (List.take_subset _ _ (perm'.subset inside)))).2
    · intro chain member left
      refine (lt_or_ge chain.length config.minimumPointsPerLayer).imp id fun big => ⟨?_, ?_⟩
      · rw [perm'.length_eq, List.length_take, perm.length_eq]
        exact min_eq_left crowded.le
      · intro other inside
        rw [← List.take_append_drop config.maximumLayersPerCell ranked,
          List.pairwise_append] at sized
        have ranks := perm.mem_iff.mpr ((large chain).mpr ⟨member, big⟩)
        rw [← List.take_append_drop config.maximumLayersPerCell ranked, List.mem_append] at ranks
        rcases ranks with taken | dropped
        · exact absurd (perm'.mem_iff.mpr taken) left
        · exact sized.2.2 other (perm'.subset inside) chain dropped
  · refine ⟨sublist.subperm, below.sublist sublist, fun chain kept => ((large chain).mp kept).2,
      fun chain member left => .inl ?_⟩
    exact not_le.mp fun big => left ((large chain).mpr ⟨member, big⟩)

section Cells

variable [HeightMath] {observationCount : Nat} {authority : StaticEvidenceAuthority}
  {points others : List Vec3} {key : Int}

theorem layersOf_layered (nonnegative : 0 ≤ config.maximumMergeGapM.value) :
    Layered config observationCount authority (cellHeights config points key)
      (layersOf config observationCount authority points key) := by
  generalize from_ : cellHeights config points key = heights
  unfold layersOf
  rw [from_]
  have sorted := List.pairwise_insertionSort (· ≤ ·) heights
  have maximal := gapChains_maximal config.maximumMergeGapM.value sorted
  obtain ⟨among, below, large, dropped⟩ := keptChains_spec heights nonnegative
  generalize keptChains config heights = kept at *
  have nonempty : ∀ chain ∈ kept, chain ≠ [] := fun chain member gone =>
    maximal.nonempty (gone ▸ among.subset member)
  refine ⟨⟨_, kept, ⟨maximal.whole.trans (List.perm_insertionSort _ heights), maximal.ordered,
    maximal.nonempty, maximal.linked, maximal.apart⟩, rfl, fun chain member =>
      ⟨among.subset member, large chain member⟩, dropped⟩, ?_, ?_, ?_⟩
  · rw [List.pairwise_map]
    refine below.imp_of_mem fun {lower upper} inside inside' apart => ?_
    exact apart.2 _ (ends_mem (nonempty lower inside)).2 _ (ends_mem (nonempty upper inside')).1
  · intro layer member
    obtain ⟨chain, inside, rfl⟩ := List.mem_map.mp member
    have ordered := (List.pairwise_flatten.mp maximal.ordered).1 chain (among.subset inside)
    have bounds := fun q q' : ℚ => quantileOfSorted_bounds (nonempty chain inside) ordered q q'
    exact ⟨(bounds _ _ le_rfl).1, (bounds _ _ (by norm_num)).2.1, (bounds _ _ (by norm_num)).2.1,
      (bounds _ _ le_rfl).2.2⟩
  · obtain ⟨same, perm, sublist⟩ := among
    rw [List.map_map]
    calc (kept.map _).sum ≤ (kept.map List.length).sum :=
          List.sum_le_sum fun chain _ => Nat.mod_le _ _
      _ = (same.map List.length).sum := (perm.map _).sum_eq.symm
      _ ≤ _ := (sublist.map _).sum_le_sum fun _ _ => Nat.zero_le _
      _ = heights.length := by
          rw [← List.length_flatten, maximal.whole.length_eq, List.length_insertionSort]

theorem layersOf_perm (same : points.Perm others) :
    layersOf config observationCount authority others key =
      layersOf config observationCount authority points key := by
  have perm : (cellHeights config others key).Perm (cellHeights config points key) :=
    ((same.symm.filter _).filter _).map _
  have sorted : (cellHeights config others key).insertionSort (· ≤ ·) =
      (cellHeights config points key).insertionSort (· ≤ ·) :=
    @Follows.sort_perm ℚ ℚ _ id _ _ _ _ (fun _ _ _ _ => Iff.rfl) (fun _ _ _ _ equal => equal) perm
  unfold layersOf keptChains
  rw [sorted]

theorem layersAt_eq (valid : validConfig config = true) :
    layersAt (buildLayers config observationCount authority points) key =
      layersOf config observationCount authority points key := by
  have keys : layersOf config observationCount authority points key ≠ [] →
      key ∈ ascending ((points.filter (·.allFinite)).map (keyFor config)) := fun some => by
    rw [mem_ascending, List.mem_map]
    by_contra absent
    have none : cellHeights config points key = [] := by
      unfold cellHeights
      rw [List.map_eq_nil_iff, List.filter_eq_nil_iff]
      exact fun point member here => absent ⟨point, member, of_decide_eq_true here⟩
    refine some ?_
    unfold layersOf
    rw [none]
    simp [keptChains, gapChains]
  unfold layersAt buildLayers
  rw [if_neg (by simp [valid])]
  dsimp only
  cases found : List.find? _ _ with
  | some cell =>
    have named := List.find?_some found
    obtain ⟨place, -, made⟩ := List.mem_filterMap.mp (List.mem_of_find?_eq_some found)
    split_ifs at made with empty
    obtain rfl := Option.some.inj made
    rw [← of_decide_eq_true named]
    rfl
  | none =>
    -- A cell with layers would have been found.
    by_contra some
    have some : layersOf config observationCount authority points key ≠ [] := fun gone =>
      some gone.symm
    refine absurd (List.find?_eq_none.mp found
      ⟨key, layersOf config observationCount authority points key⟩
      (List.mem_filterMap.mpr ⟨key, keys some, ?_⟩)) (by simp)
    exact if_neg (by simpa using some)

end Cells

end StaticHeightField

end NdtSlam
