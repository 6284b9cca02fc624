import NdtSlam.Foundation.Components
import NdtSlam.Obstacle.Perception

/-! Which returns of a frame a usable perception leaves out. -/

namespace NdtSlam

structure FiniteFunctions [CircularFunctions] [EuclideanNorm] : Prop where
  cosine : ∀ {angle : Scalar}, angle.isFinite = true → (cos angle).isFinite = true
  sine : ∀ {angle : Scalar}, angle.isFinite = true → (sin angle).isFinite = true
  norm : ∀ {vector : Vec2}, vector.allFinite = true → vector.norm.isFinite = true

def WithinTolerance (tolerance : Scalar) (first second : Vec3) : Prop :=
  (first - second).dot (first - second) ≤ tolerance * tolerance

instance (tolerance : Scalar) : DecidableRel (WithinTolerance tolerance) :=
  fun _ _ => inferInstanceAs (Decidable (_ ≤ _))

def ExtractsComponents (extract : ClusterExtraction) : Prop :=
  ∀ tolerance minimum cloud, (∀ point ∈ cloud, point.allFinite = true) →
    ∃ groups, extract tolerance minimum cloud = .ok groups ∧
      ListsComponents (WithinTolerance tolerance) cloud minimum groups

def pickPoints (chosen : Nat → Bool) (cloud : List Vec3) : List Vec3 :=
  (cloud.zipIdx.filter fun entry => chosen entry.2).map fun entry => entry.1

def SetApart (tolerance : Scalar) (chosen : Nat → Bool) (cloud : List Vec3) : Prop :=
  ∀ (index other : Nat) point rest, cloud[index]? = some point → cloud[other]? = some rest →
    chosen index = true → chosen other = false → ¬WithinTolerance tolerance point rest

def PointsCovered (report : ObstaclePerceptionReport) (cloud : List Vec3) : Prop :=
  ∀ (index : Nat) point, cloud[index]? = some point → point.allFinite = true →
    report.clusters.countP (fun cluster => (index : Int) ∈ cluster.pointIndices) = 1

def sparseReasons : List String := ["sparse_obstacle_returns", "obstacle_clusters_insufficient"]

structure FrameUsable (config : ObstaclePerceptionConfig) (input : ObstaclePerceptionInput) :
    Prop where
  fields : validateObstaclePerceptionConfig config = none
  outlined : validHorizontalFootprint input.queryFootprint = true
  observed : observationSufficient config input = true

abbrev CloudComponent (config : ObstaclePerceptionConfig) (cloud : List Vec3) : Type :=
  (proximityGraph (WithinTolerance config.clusterToleranceM)
    (finiteCloud cloud)).ConnectedComponent

def CloudComponent.Large {config : ObstaclePerceptionConfig} {cloud : List Vec3}
    (component : CloudComponent config cloud) : Prop :=
  config.minimumClusterPoints ≤ component.supp.ncard

/-! ### Finite points and their places -/

variable {cloud : List Vec3}

theorem mem_finiteReturns {point : Vec3} {index : Nat} :
    (point, index) ∈ finiteReturns cloud ↔
      cloud[index]? = some point ∧ point.allFinite = true := by
  simp [finiteReturns, List.mem_zipIdx_iff_getElem?]

theorem finiteCloud_finite :
    ∀ point ∈ finiteCloud cloud, point.allFinite = true := by
  intro point member
  obtain ⟨⟨_, index⟩, kept, rfl⟩ := List.mem_map.mp member
  exact (mem_finiteReturns.1 kept).2

theorem finiteSourceIndices_length :
    (finiteSourceIndices cloud).length = (finiteCloud cloud).length := by
  simp [finiteSourceIndices, finiteCloud]

theorem finiteSourceIndices_nodup (cloud : List Vec3) : (finiteSourceIndices cloud).Nodup := by
  have places : ((finiteReturns cloud).map fun entry => entry.2).Nodup := by
    have all : (cloud.zipIdx.map Prod.snd).Nodup := by
      rw [List.zipIdx_map_snd]
      exact List.nodup_range'
    exact all.sublist (List.filter_sublist.map _)
  have indices : finiteSourceIndices cloud
      = ((finiteReturns cloud).map fun entry => entry.2).map Int.ofNat := by
    rw [List.map_map]
    rfl
  rw [indices]
  exact places.map Int.ofNat_injective

theorem finiteSource_of_finite {index : Nat} {point : Vec3} (found : cloud[index]? = some point)
    (finite : point.allFinite = true) :
    ∃ place : Fin (finiteCloud cloud).length,
      (finiteSourceIndices cloud)[place.val]? = some (index : Int) := by
  obtain ⟨place, kept⟩ := List.mem_iff_getElem?.mp (mem_finiteReturns.2 ⟨found, finite⟩)
  have within : place < (finiteReturns cloud).length := (List.getElem?_eq_some_iff.mp kept).1
  refine ⟨⟨place, by simpa [finiteCloud] using within⟩, ?_⟩
  simp [finiteSourceIndices, kept]

theorem finite_of_place (place : Fin (finiteCloud cloud).length) :
    ∃ (index : Nat) (point : Vec3), cloud[index]? = some point ∧ point.allFinite = true ∧
      (finiteSourceIndices cloud)[place.val]? = some (index : Int) := by
  have within : place.val < (finiteReturns cloud).length := by
    have bound := place.isLt
    simpa [finiteCloud] using bound
  obtain ⟨found, finite⟩ := mem_finiteReturns.1 (List.getElem_mem within)
  exact ⟨_, _, found, finite, by simp [finiteSourceIndices, within]⟩

def sourceIndices (cloud : List Vec3) (indices : List Int) : List Int :=
  indices.map fun index => (finiteSourceIndices cloud).getD index.toNat 0

theorem mem_sourceIndices {indices : List Int} {index : Int}
    {place : Fin (finiteCloud cloud).length}
    (source : (finiteSourceIndices cloud)[place.val]? = some index)
    (range : ∀ other ∈ indices, ∃ spot : Fin (finiteCloud cloud).length, (spot : Int) = other) :
    index ∈ sourceIndices cloud indices ↔ (place : Int) ∈ indices := by
  -- Different places among the finite points are different places in the cloud.
  unfold sourceIndices
  rw [List.mem_map]
  constructor
  · rintro ⟨other, member, equal⟩
    obtain ⟨spot, rfl⟩ := range other member
    have inside : spot.val < (finiteSourceIndices cloud).length := by
      rw [finiteSourceIndices_length]
      exact spot.isLt
    obtain ⟨within, here⟩ := List.getElem?_eq_some_iff.mp source
    rw [Int.toNat_natCast, List.getD_eq_getElem?_getD, List.getElem?_eq_getElem inside,
      Option.getD_some, ← here] at equal
    have same := (finiteSourceIndices_nodup cloud).getElem_inj_iff.mp equal
    rwa [← same]
  · intro member
    exact ⟨_, member, by simp [List.getD_eq_getElem?_getD, source]⟩

variable {config : ObstaclePerceptionConfig}

theorem covered_iff
    {groups : List (List Int)} {report : ObstaclePerceptionReport}
    (lists : ListsComponents (WithinTolerance config.clusterToleranceM) (finiteCloud cloud)
      config.minimumClusterPoints groups)
    (all : report.clusters.map (·.pointIndices) = groups.map (sourceIndices cloud)) :
    PointsCovered report cloud ↔ ∀ component : CloudComponent config cloud, component.Large := by
  -- A finite point is in as many clusters as its place is in groups.
  have same : ∀ (index : Nat) (place : Fin (finiteCloud cloud).length),
      (finiteSourceIndices cloud)[place.val]? = some (index : Int) →
      report.clusters.countP (fun cluster => (index : Int) ∈ cluster.pointIndices)
        = groups.countP fun indices => (place : Int) ∈ indices := by
    intro index place source
    have clusters : report.clusters.countP (fun cluster => (index : Int) ∈ cluster.pointIndices)
        = (report.clusters.map (·.pointIndices)).countP fun indices => (index : Int) ∈ indices := by
      rw [List.countP_map]
      rfl
    rw [clusters, all, List.countP_map]
    refine List.countP_congr fun indices group => ?_
    simpa using mem_sourceIndices source fun other inside => lists.range group inside
  constructor
  · intro covered component
    induction component using SimpleGraph.ConnectedComponent.ind with
    | _ place =>
      obtain ⟨index, point, found, finite, source⟩ := finite_of_place place
      have once := covered index point found finite
      rw [same index place source] at once
      exact (lists.countP_eq_one place).mp once
  · intro large index point found finite
    obtain ⟨place, source⟩ := finiteSource_of_finite found finite
    rw [same index place source]
    exact (lists.countP_eq_one place).mpr (large _)

theorem large_le_length {component : CloudComponent config cloud} (large : component.Large) :
    config.minimumClusterPoints ≤ (finiteCloud cloud).length := by
  have bound := Set.ncard_le_card component.supp
  rw [Nat.card_eq_fintype_card, Fintype.card_fin] at bound
  exact le_trans large bound

/-! ### Measures of finite points -/

theorem nearestRankPercentile_isFinite {values : List Scalar}
    (finite : ∀ value ∈ values, value.isFinite = true) (some : values ≠ []) (percentile : Scalar) :
    (nearestRankPercentile values percentile).isFinite = true := by
  -- The rank is at least one and at most the number of values.
  have count : 0 < values.length := List.length_pos_of_ne_nil some
  unfold nearestRankPercentile
  dsimp only
  generalize rank : max 1 (min ⌈(percentile * .ofNat values.length).value⌉.toNat values.length)
    = place
  have within : place - 1 < (values.insertionSort (· ≤ ·)).length := by
    rw [List.length_insertionSort]
    omega
  rw [List.getD_eq_getElem?_getD, List.getElem?_eq_getElem within, Option.getD_some]
  exact finite _ ((List.mem_insertionSort _).mp (List.getElem_mem within))

theorem maxOf_isFinite {first second : Scalar} (left : first.isFinite = true)
    (right : second.isFinite = true) : (Scalar.maxOf first second).isFinite = true := by
  unfold Scalar.maxOf
  split_ifs
  · exact right
  · exact left

theorem clamp_isFinite {value low high : Scalar} (finite : value.isFinite = true)
    (below : low.isFinite = true) (above : high.isFinite = true) :
    (Scalar.clamp value low high).isFinite = true := by
  unfold Scalar.clamp
  split_ifs
  · exact below
  · exact above
  · exact finite

theorem foldl_maxOf_isFinite {values : List Scalar} {start : Scalar}
    (finite : ∀ value ∈ values, value.isFinite = true) (first : start.isFinite = true) :
    (values.foldl Scalar.maxOf start).isFinite = true := by
  induction values generalizing start with
  | nil => exact first
  | cons head rest ih =>
    rw [List.forall_mem_cons] at finite
    exact ih finite.2 (maxOf_isFinite first finite.1)

theorem abs_isFinite {value : Scalar} (finite : value.isFinite = true) :
    value.abs.isFinite = true := by
  obtain ⟨number, rfl⟩ := Scalar.isFinite_iff.1 finite
  rfl

theorem neg_isFinite {value : Scalar} (finite : value.isFinite = true) :
    (-value).isFinite = true := by
  obtain ⟨number, rfl⟩ := Scalar.isFinite_iff.1 finite
  rfl

theorem uncertainty_isFinite (valid : validateObstaclePerceptionConfig config = none) :
    config.uncertaintyFloorM.isFinite = true ∧ config.uncertaintyMaxM.isFinite = true := by
  unfold validateObstaclePerceptionConfig at valid
  rw [Option.map_eq_none_iff, List.find?_eq_none] at valid
  unfold ObstaclePerceptionConfig.faults at valid
  simp only [List.forall_mem_cons] at valid
  obtain ⟨-, -, -, -, -, -, -, -, -, floor, ceiling, -⟩ := valid
  simp only [Bool.not_eq_true, Bool.or_eq_false_iff, Bool.not_eq_false'] at floor ceiling
  exact ⟨floor.1, ceiling.1⟩

section Coverage

variable [CircularFunctions] [EuclideanNorm]

/--
A usable result covers all finite points, so that points that are too sparse on their own are
still covered when points far away join them.
-/
def NothingHidden (extract : ClusterExtraction) (config : ObstaclePerceptionConfig)
    (input : ObstaclePerceptionInput) : Prop :=
  ∀ cloud, input.cloudBase = some cloud →
    ((perceiveObstacles extract config input).valid = true →
      PointsCovered (perceiveObstacles extract config input) cloud) ∧
    ∀ chosen, SetApart config.clusterToleranceM chosen cloud →
      (perceiveObstacles extract config
        { input with cloudBase := some (pickPoints chosen cloud) }).valid = false →
      (perceiveObstacles extract config
        { input with cloudBase := some (pickPoints chosen cloud) }).reason ∈ sparseReasons →
      ¬((perceiveObstacles extract config input).valid = true ∧
        ∀ cluster ∈ (perceiveObstacles extract config input).clusters, ∀ index : Nat,
          chosen index = true → (index : Int) ∉ cluster.pointIndices)

variable {footprint : CargoObbFootprint}

theorem pointToCargoObbDistance2D_isFinite (functions : FiniteFunctions)
    (valid : validHorizontalFootprint footprint = true) {point : Vec2}
    (finite : point.allFinite = true) :
    (pointToCargoObbDistance2D point footprint).isFinite = true := by
  unfold validHorizontalFootprint at valid
  simp only [Bool.and_eq_true, decide_eq_true_eq] at valid
  obtain ⟨⟨⟨⟨⟨⟨marked, center⟩, length⟩, long⟩, width⟩, wide⟩, yaw⟩ := valid
  have sound : (!point.allFinite || !footprint.valid || !footprint.centerBase.allFinite ||
      footprint.lengthM ≤ 0 || footprint.widthM ≤ 0 || !footprint.yawBaseRad.isFinite) = false := by
    have notShort : ¬footprint.lengthM ≤ 0 := fun short => Scalar.not_lt_of_le short long
    have notNarrow : ¬footprint.widthM ≤ 0 := fun narrow => Scalar.not_lt_of_le narrow wide
    simp [finite, marked, center, yaw, notShort, notNarrow]
  unfold pointToCargoObbDistance2D
  rw [sound]
  simp only [Bool.false_eq_true, if_false]
  unfold Vec2.allFinite at finite center
  rw [Bool.and_eq_true] at finite center
  -- Both coordinates in the frame of the load are sums of products of finite values.
  have deltaX : (point - footprint.centerBase).x.isFinite = true :=
    Scalar.sub_isFinite.2 ⟨finite.1, center.1⟩
  have deltaY : (point - footprint.centerBase).y.isFinite = true :=
    Scalar.sub_isFinite.2 ⟨finite.2, center.2⟩
  have half : ∀ extent : Scalar, extent.isFinite = true → (0.5 * extent).isFinite = true :=
    fun extent known => Scalar.mul_isFinite rfl known
  refine functions.norm ?_
  unfold Vec2.allFinite
  rw [Bool.and_eq_true]
  constructor
  · exact maxOf_isFinite (Scalar.sub_isFinite.2 ⟨abs_isFinite (Scalar.add_isFinite.2
      ⟨Scalar.mul_isFinite (functions.cosine yaw) deltaX,
        Scalar.mul_isFinite (functions.sine yaw) deltaY⟩), half _ length⟩) rfl
  · exact maxOf_isFinite (Scalar.sub_isFinite.2 ⟨abs_isFinite (Scalar.add_isFinite.2
      ⟨Scalar.mul_isFinite (neg_isFinite (functions.sine yaw)) deltaX,
        Scalar.mul_isFinite (functions.cosine yaw) deltaY⟩), half _ width⟩) rfl

theorem nearestPoint_isFinite (functions : FiniteFunctions)
    (valid : validHorizontalFootprint footprint = true) {points : List Vec3}
    (finite : ∀ point ∈ points, point.allFinite = true) {start : Scalar × Vec3}
    (begins : start.1.isFinite = true ∨ start.1 = .posInf ∧ points ≠ []) :
    (points.foldl (nearerPoint footprint) start).1.isFinite = true := by
  induction points generalizing start with
  | nil =>
    rcases begins with known | ⟨-, some⟩
    · exact known
    · exact absurd rfl some
  | cons head rest ih =>
    rw [List.forall_mem_cons] at finite
    have planar : head.head2.allFinite = true := by
      have all := finite.1
      unfold Vec3.allFinite at all
      rw [Bool.and_eq_true] at all
      exact all.1
    have distance := pointToCargoObbDistance2D_isFinite functions valid planar
    refine ih finite.2 (.inl ?_)
    unfold nearerPoint
    dsimp only
    split_ifs with nearer
    · exact distance
    · -- Anything finite is nearer than infinity.
      rcases begins with known | ⟨infinite, -⟩
      · exact known
      · obtain ⟨number, found⟩ := Scalar.isFinite_iff.1 distance
        rw [found, infinite] at nearer
        exact absurd rfl nearer

theorem measureCluster_isFinite (functions : FiniteFunctions)
    (accepted : validateObstaclePerceptionConfig config = none)
    (valid : validHorizontalFootprint footprint = true) {points : List Vec3}
    (finite : ∀ point ∈ points, point.allFinite = true) (some : points ≠ []) (clusterIndex : Nat)
    (pointIndices : List Int) :
    (!(measureCluster config footprint clusterIndex pointIndices points).footprintDistanceM.isFinite
      || !(measureCluster config footprint clusterIndex pointIndices points).topZ95M.isFinite
      || !(measureCluster config footprint clusterIndex pointIndices points).bottomZ05M.isFinite
      || !(measureCluster config footprint clusterIndex pointIndices
        points).obstacleUncertaintyM.isFinite) = false := by
  have heights : ∀ z ∈ points.map fun point => point.z, z.isFinite = true := by
    intro z member
    obtain ⟨point, inside, rfl⟩ := List.mem_map.mp member
    have all := finite point inside
    unfold Vec3.allFinite at all
    rw [Bool.and_eq_true] at all
    exact all.2
  have someHeights : (points.map fun point => point.z) ≠ [] := by simpa using some
  have percentile := nearestRankPercentile_isFinite heights someHeights
  have distance : (points.foldl (nearerPoint footprint) (.posInf, {})).1.isFinite = true :=
    nearestPoint_isFinite functions valid finite (.inr ⟨rfl, some⟩)
  have highest : ((points.map fun point => point.z).tail.foldl Scalar.maxOf
      ((points.map fun point => point.z).headD .nan)).isFinite = true := by
    cases points with
    | nil => exact absurd rfl some
    | cons head rest =>
      rw [List.map_cons, List.forall_mem_cons] at heights
      exact foldl_maxOf_isFinite heights.2 heights.1
  obtain ⟨floor, ceiling⟩ := uncertainty_isFinite accepted
  have zero : (0 : Scalar).isFinite = true := rfl
  have uncertainty := clamp_isFinite (Scalar.add_isFinite.2 ⟨floor, maxOf_isFinite zero
    (Scalar.sub_isFinite.2 ⟨highest, percentile config.topPercentile⟩)⟩) floor ceiling
  unfold measureCluster
  simp only [Bool.or_eq_false_iff, Bool.not_eq_false']
  exact ⟨⟨⟨distance, percentile _⟩, percentile _⟩, uncertainty⟩

/-! ### Clusters of one frame -/

variable {config : ObstaclePerceptionConfig} {footprint : CargoObbFootprint} {cloud : List Vec3}

theorem addCluster_ok (functions : FiniteFunctions)
    (accepted : validateObstaclePerceptionConfig config = none)
    (valid : validHorizontalFootprint footprint = true) {indices : List Int}
    (range : ∀ index ∈ indices, ∃ place : Fin (finiteCloud cloud).length, (place : Int) = index)
    (some : indices ≠ []) (clusters : List ObstaclePerceptionCluster) (position : Nat) :
    ∃ cluster, addCluster config footprint cloud clusters (indices, position)
        = .ok (clusters ++ [cluster]) ∧
      cluster.pointIndices = sourceIndices cloud indices := by
  have inside : (indices.any fun index =>
      index < 0 || (finiteSourceIndices cloud).length ≤ index) = false := by
    rw [List.any_eq_false]
    intro index member
    obtain ⟨place, rfl⟩ := range index member
    have bound := place.isLt
    rw [finiteSourceIndices_length]
    simp only [Bool.or_eq_true, decide_eq_true_eq]
    omega
  have finite : ∀ point ∈ indices.map fun index => (finiteCloud cloud).getD index.toNat {},
      point.allFinite = true := by
    intro point member
    obtain ⟨index, chosen, rfl⟩ := List.mem_map.mp member
    obtain ⟨place, rfl⟩ := range index chosen
    rw [Int.toNat_natCast, List.getD_eq_getElem?_getD, List.getElem?_eq_getElem place.isLt,
      Option.getD_some]
    exact finiteCloud_finite _ (List.getElem_mem _)
  have measured := measureCluster_isFinite functions accepted valid finite (by simpa using some)
    position (sourceIndices cloud indices)
  have nonempty : indices.isEmpty = false := by simpa using some
  refine ⟨measureCluster config footprint position (sourceIndices cloud indices)
    (indices.map fun index => (finiteCloud cloud).getD index.toNat {}), ?_, rfl⟩
  unfold addCluster
  rw [if_neg (by simp [nonempty])]
  simp only [bind_eq_ok]
  exact ⟨(), refuseIf_eq_ok.2 inside, (), refuseIf_eq_ok.2 measured, rfl⟩

theorem clusters_ok (functions : FiniteFunctions)
    (accepted : validateObstaclePerceptionConfig config = none)
    (valid : validHorizontalFootprint footprint = true) {groups : List (List Int × Nat)}
    (range : ∀ group ∈ groups, ∀ index ∈ group.1,
      ∃ place : Fin (finiteCloud cloud).length, (place : Int) = index)
    (some : ∀ group ∈ groups, group.1 ≠ []) (before : List ObstaclePerceptionCluster) :
    ∃ clusters, groups.foldlM (addCluster config footprint cloud) before = .ok clusters ∧
      clusters.map (·.pointIndices) = before.map (·.pointIndices) ++
        groups.map fun group => sourceIndices cloud group.1 := by
  induction groups generalizing before with
  | nil => exact ⟨before, rfl, by simp⟩
  | cons head rest ih =>
    rw [List.forall_mem_cons] at range some
    obtain ⟨cluster, added, indices⟩ :=
      addCluster_ok functions accepted valid range.1 some.1 before head.2
    obtain ⟨clusters, folded, all⟩ := ih range.2 some.2 (before ++ [cluster])
    refine ⟨clusters, ?_, ?_⟩
    · rw [List.foldlM_cons, bind_eq_ok]
      exact ⟨_, added, folded⟩
    · rw [all]
      simp [indices]

variable {extract : ClusterExtraction} {input : ObstaclePerceptionInput}

theorem perceive_usable (base : input.cloudBase = some cloud)
    (valid : (perceiveObstacles extract config input).valid = true) :
    FrameUsable config input := by
  unfold perceiveObstacles at valid
  dsimp only at valid
  cases accepted : validateObstaclePerceptionConfig config with
  | some field =>
    rw [accepted] at valid
    cases valid
  | none =>
    rw [accepted, base] at valid
    dsimp only at valid
    by_cases outlined : validHorizontalFootprint input.queryFootprint = true
    · by_cases observed : observationSufficient config input = true
      · exact ⟨accepted, outlined, observed⟩
      · rw [if_neg (by simp [outlined]), if_pos (by simpa using observed)] at valid
        cases valid
    · rw [if_pos (by simpa using outlined)] at valid
      cases valid

theorem perceive_points (usable : FrameUsable config input) (base : input.cloudBase = some cloud)
    {groups : List (List Int)} {clusters : List ObstaclePerceptionCluster}
    (extracted : extract config.clusterToleranceM config.minimumClusterPoints (finiteCloud cloud)
      = .ok groups)
    (folded : groups.zipIdx.foldlM (addCluster config input.queryFootprint cloud) []
      = .ok clusters) (report : ObstaclePerceptionReport)
    (perceived : perceiveObstacles extract config input = report) :
    finiteCloud cloud = [] ∧ report.valid = true ∧ report.clusters = [] ∧
        report.reason = "clear_no_external_obstacle" ∨
      finiteCloud cloud ≠ [] ∧
        (finiteCloud cloud).length < config.minimumClusterPoints ∧ report.valid = false ∨
      finiteCloud cloud ≠ [] ∧ config.minimumClusterPoints ≤ (finiteCloud cloud).length ∧
        (report.valid = true ↔ clusters ≠ []) ∧ report.clusters = clusters := by
  unfold perceiveObstacles at perceived
  dsimp only at perceived
  rw [usable.fields, base] at perceived
  dsimp only at perceived
  rw [if_neg (by simp [usable.outlined]), if_neg (by simp [usable.observed])] at perceived
  by_cases empty : (finiteCloud cloud).isEmpty = true
  · rw [if_pos empty] at perceived
    subst perceived
    exact .inl ⟨by simpa using empty, rfl, rfl, rfl⟩
  · rw [if_neg empty] at perceived
    have some : finiteCloud cloud ≠ [] := by simpa using empty
    by_cases sparse : (finiteCloud cloud).length < config.minimumClusterPoints
    · rw [if_pos sparse] at perceived
      subst perceived
      exact .inr (.inl ⟨some, sparse, rfl⟩)
    · rw [if_neg sparse, extracted] at perceived
      dsimp only at perceived
      rw [folded] at perceived
      dsimp only at perceived
      refine .inr (.inr ⟨some, not_lt.mp sparse, ?_⟩)
      by_cases none : clusters.isEmpty = true
      · rw [if_pos none] at perceived
        subst perceived
        exact ⟨by simpa using none, rfl⟩
      · rw [if_neg none] at perceived
        subst perceived
        exact ⟨by simpa using none, rfl⟩

theorem frame_clusters (functions : FiniteFunctions) (library : ExtractsComponents extract)
    (usable : FrameUsable config input) :
    ∃ groups clusters,
      extract config.clusterToleranceM config.minimumClusterPoints (finiteCloud cloud)
        = .ok groups ∧
      ListsComponents (WithinTolerance config.clusterToleranceM) (finiteCloud cloud)
        config.minimumClusterPoints groups ∧
      groups.zipIdx.foldlM (addCluster config input.queryFootprint cloud) [] = .ok clusters ∧
      clusters.map (·.pointIndices) = groups.map (sourceIndices cloud) := by
  obtain ⟨groups, extracted, lists⟩ := library config.clusterToleranceM
    config.minimumClusterPoints (finiteCloud cloud) finiteCloud_finite
  have group : ∀ entry ∈ groups.zipIdx, entry.1 ∈ groups :=
    fun entry member => List.fst_mem_of_mem_zipIdx member
  obtain ⟨clusters, folded, all⟩ := clusters_ok functions usable.fields usable.outlined
    (fun entry member index inside => lists.range (group entry member) inside)
    (fun entry member => lists.group_ne_nil (group entry member)) []
  refine ⟨groups, clusters, extracted, lists, folded, all.trans ?_⟩
  conv_rhs => rw [← List.zipIdx_map_fst 0 groups, List.map_map]
  rfl

theorem sparse_has_finite {chosen : Nat → Bool} (functions : FiniteFunctions)
    (library : ExtractsComponents extract) (usable : FrameUsable config input)
    (sparse : (perceiveObstacles extract config
      { input with cloudBase := some (pickPoints chosen cloud) }).reason ∈ sparseReasons) :
    ∃ (index : Nat) (point : Vec3), cloud[index]? = some point ∧ point.allFinite = true ∧
      chosen index = true := by
  -- The chosen points alone get as far, and without a finite one they are taken for clear.
  have alone : FrameUsable config { input with cloudBase := some (pickPoints chosen cloud) } :=
    ⟨usable.fields, usable.outlined, usable.observed⟩
  obtain ⟨groups, clusters, extracted, -, folded, -⟩ :=
    @frame_clusters _ _ config (pickPoints chosen cloud) extract _ functions library alone
  rcases perceive_points alone rfl extracted folded _ rfl with
    ⟨-, -, -, clear⟩ | ⟨some, -⟩ | ⟨some, -⟩
  · rw [clear] at sparse
    exact absurd sparse (by decide)
  all_goals
    obtain ⟨point, member⟩ := List.exists_mem_of_ne_nil _ some
    obtain ⟨⟨_, place⟩, kept, rfl⟩ := List.mem_map.mp member
    obtain ⟨found, finite⟩ := mem_finiteReturns.1 kept
    obtain ⟨⟨_, index⟩, picked, rfl⟩ := List.mem_map.mp (List.mem_of_getElem? found)
    rw [List.mem_filter, List.mem_zipIdx_iff_getElem?] at picked
    exact ⟨index, _, picked.1, finite, picked.2⟩

/--
Nothing is hidden, unless a usable frame has a component that is large enough for a cluster and
another one that is not.
-/
theorem perception_hides_nothing (functions : FiniteFunctions)
    (library : ExtractsComponents extract) (config : ObstaclePerceptionConfig)
    (input : ObstaclePerceptionInput) :
    NothingHidden extract config input ↔
      ∀ cloud, input.cloudBase = some cloud → FrameUsable config input →
        (∃ component : CloudComponent config cloud, component.Large) →
          ∀ component : CloudComponent config cloud, component.Large := by
  refine forall_congr' fun cloud => forall_congr' fun base => ?_
  constructor
  · rintro ⟨covers, -⟩ usable ⟨component, large⟩
    obtain ⟨groups, clusters, extracted, lists, folded, all⟩ :=
      @frame_clusters _ _ config cloud extract _ functions library usable
    -- With a large component the result is valid, and covers all points.
    have some : groups ≠ [] := lists.ne_nil.mpr ⟨component, large⟩
    have found : clusters ≠ [] := by
      rintro rfl
      exact some (List.map_eq_nil_iff.mp all.symm)
    rcases perceive_points usable base extracted folded _ rfl with
      ⟨empty, -⟩ | ⟨-, sparse, -⟩ | ⟨-, -, valid, reported⟩
    · have place := large_le_length large
      exact fun other => by
        induction other using SimpleGraph.ConnectedComponent.ind with
        | _ place => exact absurd place.isLt (by simp [empty])
    · exact absurd (large_le_length large) (by omega)
    · exact (covered_iff lists (reported ▸ all)).mp (covers (valid.mpr found))
  · intro uniform
    have covers : (perceiveObstacles extract config input).valid = true →
        PointsCovered (perceiveObstacles extract config input) cloud := by
      intro valid
      have usable := perceive_usable base valid
      obtain ⟨groups, clusters, extracted, lists, folded, all⟩ :=
        @frame_clusters _ _ config cloud extract _ functions library usable
      rcases perceive_points usable base extracted folded _ rfl with
        ⟨empty, -, -⟩ | ⟨-, -, invalid⟩ | ⟨-, -, found, reported⟩
      · -- Without a finite point there is nothing to be covered.
        intro index point found finite
        obtain ⟨place, -⟩ := finiteSource_of_finite found finite
        exact absurd place.isLt (by simp [empty])
      · rw [invalid] at valid
        cases valid
      · have some : groups ≠ [] := by
          rintro rfl
          exact found.mp valid (List.map_eq_nil_iff.mp all)
        exact (covered_iff lists (reported ▸ all)).mpr (uniform usable (lists.ne_nil.mp some))
    refine ⟨covers, fun chosen _ _ sparse => ?_⟩
    rintro ⟨valid, absent⟩
    -- One of the sparse points is finite, so that a cluster has it.
    obtain ⟨index, point, found, finite, mine⟩ :=
      sparse_has_finite functions library (perceive_usable base valid) sparse
    have once := covers valid index point found finite
    have positive : 0 < (perceiveObstacles extract config input).clusters.countP
        (fun cluster => (index : Int) ∈ cluster.pointIndices) := by omega
    obtain ⟨cluster, member, inside⟩ := List.countP_pos_iff.mp positive
    exact absent cluster member index mine (by simpa using inside)

end Coverage

section Samples

@[reducible] def untwisted : CircularFunctions where
  cos _ := 1
  sin _ := 0

attribute [local instance] untwisted axisNorm
attribute [local semireducible] Rat.add Rat.sub Rat.mul Rat.inv Rat.ofScientific

theorem untwisted_finite : FiniteFunctions where
  cosine _ := rfl
  sine _ := rfl
  norm finite := by
    unfold Vec2.allFinite at finite
    rw [Bool.and_eq_true] at finite
    exact Scalar.add_isFinite.2 ⟨abs_isFinite finite.1, abs_isFinite finite.2⟩

def listingExtraction : ClusterExtraction := fun tolerance minimum cloud =>
  .ok (listComponents (WithinTolerance tolerance) cloud minimum)

theorem listingExtraction_components : ExtractsComponents listingExtraction :=
  fun _ minimum _ _ => ⟨_, rfl, listsComponents_listComponents minimum⟩

def frameOf (cloud : List Vec3) : ObstaclePerceptionInput where
  queryFootprint := { valid := true, lengthM := 2, widthM := 2 }
  cloudBase := some cloud
  observationValid := true
  cloudAgeSec := 0
  roiFinitePoints := 20
  roiCoverageRatio := 1

def pairedReturns : ObstaclePerceptionConfig := { minimumClusterPoints := 2 }

theorem pair_hides_nothing :
    NothingHidden listingExtraction pairedReturns (frameOf [⟨9, 0, 0⟩, ⟨9.1, 0, 0⟩]) := by
  refine (perception_hides_nothing untwisted_finite listingExtraction_components _ _).mpr ?_
  intro cloud base usable some component
  obtain rfl := Option.some.inj base
  -- Either point reaches both.
  induction component using SimpleGraph.ConnectedComponent.ind with
  | _ place =>
    unfold CloudComponent.Large
    rw [← reachablePlaces_length]
    revert place
    decide

theorem near_return_hidden :
    ¬NothingHidden listingExtraction pairedReturns
      (frameOf [⟨2, 0, 0⟩, ⟨9, 0, 0⟩, ⟨9.1, 0, 0⟩]) := by
  intro hidden
  -- On its own the point is too sparse, and it is far from both others.
  refine (hidden _ rfl).2 (fun index => index == 0) ?_ (by decide) (by decide)
    ⟨by decide, ?_⟩
  · intro index other point rest found found' mine others
    obtain rfl : index = 0 := by simpa using mine
    obtain rfl := Option.some.inj found
    rcases other with _ | _ | _ | other
    · cases others
    · obtain rfl := Option.some.inj found'
      decide
    · obtain rfl := Option.some.inj found'
      decide
    · cases found'
  · intro cluster member index mine
    obtain rfl : index = 0 := by simpa using mine
    revert cluster
    decide

end Samples
end NdtSlam
