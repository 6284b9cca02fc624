import Mathlib.Data.Finset.Card
import Mathlib.Data.List.ProdSigma
import NdtSlam.StaticEvidence.Query

/-! An answer of the index stands for sets of cells, whatever the order of the query. -/

namespace NdtSlam
namespace StaticObstacleEvidenceIndex

/-! ### Keys -/

def IsCoordinate (coordinate : Int) : Prop := -2147483648 ≤ coordinate ∧ coordinate ≤ 2147483647

variable (key : Int64)

theorem unpack_coordinates :
    IsCoordinate (unpackStaticEvidenceCell key.toInt).1 ∧
      IsCoordinate (unpackStaticEvidenceCell key.toInt).2 := by
  -- The upper half of a word of 64 bits has a sign, and the lower half gets one.
  have low := key.le_toInt
  have high := key.toInt_lt
  unfold IsCoordinate unpackStaticEvidenceCell CargoObstacleTracker.unpackCell
  simp only [Int.bmod_def]
  omega

theorem pack_unpack :
    packStaticEvidenceCell (unpackStaticEvidenceCell key.toInt).1
      (unpackStaticEvidenceCell key.toInt).2 = key.toInt := by
  -- The remainder with a sign is the remainder again below the word.
  have low := key.le_toInt
  have high := key.toInt_lt
  unfold packStaticEvidenceCell unpackStaticEvidenceCell CargoObstacleTracker.packCell
    CargoObstacleTracker.unpackCell
  simp only [Int.bmod_def]
  omega

theorem unpack_pack {x y : Int} (first : IsCoordinate x) (second : IsCoordinate y) :
    unpackStaticEvidenceCell (packStaticEvidenceCell x y) = (x, y) := by
  -- Neither coordinate changes when it is cut down to thirty-two bits.
  obtain ⟨low, high⟩ := first
  obtain ⟨low', high'⟩ := second
  unfold packStaticEvidenceCell unpackStaticEvidenceCell CargoObstacleTracker.packCell
    CargoObstacleTracker.unpackCell
  simp only [Int.bmod_def, Prod.mk.injEq]
  omega

/-! ### The box of a query -/

namespace CellBox

structure Holds (box : CellBox) (key : Int) : Prop where
  minX : box.minX ≤ (unpackStaticEvidenceCell key).1
  maxX : (unpackStaticEvidenceCell key).1 ≤ box.maxX
  minY : box.minY ≤ (unpackStaticEvidenceCell key).2
  maxY : (unpackStaticEvidenceCell key).2 ≤ box.maxY

structure Within (inner outer : CellBox) : Prop where
  minX : outer.minX ≤ inner.minX
  maxX : inner.maxX ≤ outer.maxX
  minY : outer.minY ≤ inner.minY
  maxY : inner.maxY ≤ outer.maxY

theorem enclose_holds (box : CellBox) (key : Int) :
    (box.enclose key).Holds key ∧ box.Within (box.enclose key) :=
  ⟨⟨min_le_right _ _, le_max_right _ _, min_le_right _ _, le_max_right _ _⟩,
    ⟨min_le_left _ _, le_max_left _ _, min_le_left _ _, le_max_left _ _⟩⟩

theorem Within.holds {inner outer : CellBox} {key : Int} (within : inner.Within outer)
    (holds : inner.Holds key) : outer.Holds key :=
  ⟨within.minX.trans holds.minX, holds.maxX.trans within.maxX, within.minY.trans holds.minY,
    holds.maxY.trans within.maxY⟩

theorem foldl_enclose_holds (keys : List Int) (box : CellBox) :
    box.Within (keys.foldl enclose box) ∧ ∀ key ∈ keys, (keys.foldl enclose box).Holds key := by
  -- The induction is on the keys, and a box never becomes smaller.
  induction keys generalizing box with
  | nil => exact ⟨⟨le_rfl, le_rfl, le_rfl, le_rfl⟩, by simp⟩
  | cons key keys ih =>
    obtain ⟨larger, holds⟩ := ih (box.enclose key)
    obtain ⟨first, before⟩ := enclose_holds box key
    refine ⟨⟨larger.minX.trans before.minX, before.maxX.trans larger.maxX,
      larger.minY.trans before.minY, before.maxY.trans larger.maxY⟩, ?_⟩
    intro other among
    rcases List.mem_cons.1 among with rfl | behind
    · exact larger.holds first
    · exact holds other behind

variable {box : CellBox}

theorem foldl_enclose_within {outer : CellBox} (keys : List Int) (within : box.Within outer)
    (holds : ∀ key ∈ keys, outer.Holds key) :
    (keys.foldl enclose box).Within outer := by
  -- Each key that is enclosed lies within the bounds already.
  induction keys generalizing box with
  | nil => exact within
  | cons key keys ih =>
    have first : outer.Holds key := holds key List.mem_cons_self
    exact ih ⟨le_min within.minX first.minX, max_le within.maxX first.maxX,
      le_min within.minY first.minY, max_le within.maxY first.maxY⟩
      fun other behind => holds other (List.mem_cons_of_mem key behind)

def everywhere : CellBox := ⟨-2147483648, 2147483647, -2147483648, 2147483647⟩

theorem everywhere_holds : everywhere.Holds key.toInt := by
  obtain ⟨first, second⟩ := unpack_coordinates key
  exact ⟨first.1, first.2, second.1, second.2⟩

theorem exceeds_iff {maximum : Nat} (bounded : maximum ≤ 65536) :
    box.exceeds maximum = false ↔
      0 < box.width ∧ 0 < box.height ∧ box.width * box.height ≤ maximum := by
  unfold exceeds
  simp only [Bool.or_eq_false_iff, decide_eq_false_iff_not, not_le, not_lt]
  constructor
  · rintro ⟨⟨⟨⟨width, height⟩, wide⟩, high⟩, area⟩
    -- Either side has at most sixteen bits, so that the product has at most thirty-two.
    have product : box.width * box.height ≤ 65536 * 65536 :=
      mul_le_mul (by omega) (by omega) (by omega) (by omega)
    have positive : 0 < box.width * box.height := mul_pos width height
    rw [Int.bmod_eq_of_le (by omega) (by omega)] at area
    exact ⟨width, height, area⟩
  · rintro ⟨width, height, area⟩
    have wide : box.width ≤ box.width * box.height :=
      le_mul_of_one_le_right (by omega) (by omega)
    have high : box.height ≤ box.width * box.height :=
      le_mul_of_one_le_left (by omega) (by omega)
    rw [Int.bmod_eq_of_le (by omega) (by omega)]
    exact ⟨⟨⟨⟨width, height⟩, by omega⟩, by omega⟩, area⟩

theorem scan_length (box : CellBox) : box.scan.length = box.width.toNat * box.height.toNat := by
  -- Both sides are counted with their ends.
  have row : ∀ low high : Int, (Int.range low (high + 1)).length = (high - low + 1).toNat := by
    intro low high
    rw [Int.range, List.length_map, List.length_range]
    congr 1
    omega
  rw [scan, List.length_map, List.length_product, row, row]
  rfl

theorem scan_nodup (within : box.Within everywhere) : box.scan.Nodup := by
  -- Places are visited once, and no two of them have the same key.
  have row : ∀ low high : Int, (Int.range low high).Nodup := by
    intro low high
    refine List.nodup_range.map fun first second same => ?_
    omega
  have place : ∀ low high coordinate : Int, coordinate ∈ Int.range low (high + 1) →
      -2147483648 ≤ low → high ≤ 2147483647 → IsCoordinate coordinate := by
    intro low high coordinate among above below
    obtain ⟨least, most⟩ := Int.mem_range_iff.1 among
    exact ⟨by omega, by omega⟩
  refine ((row _ _).product (row _ _)).map_on ?_
  rintro ⟨x, y⟩ first ⟨x', y'⟩ second same
  obtain ⟨column, line⟩ := List.mem_product.1 first
  obtain ⟨column', line'⟩ := List.mem_product.1 second
  -- Both keys unpack to their own coordinates.
  have apart := congrArg unpackStaticEvidenceCell same
  rwa [unpack_pack (place _ _ _ column within.minX within.maxX)
      (place _ _ _ line within.minY within.maxY),
    unpack_pack (place _ _ _ column' within.minX within.maxX)
      (place _ _ _ line' within.minY within.maxY)] at apart

theorem mem_scan {key : Int64} (holds : box.Holds key.toInt) :
    key.toInt ∈ box.scan := by
  -- The place that is visited is the one the key unpacks to.
  refine List.mem_map.2 ⟨unpackStaticEvidenceCell key.toInt, ?_, pack_unpack key⟩
  refine List.mem_product.2 ⟨Int.mem_range_iff.2 ⟨holds.minX, ?_⟩,
    Int.mem_range_iff.2 ⟨holds.minY, ?_⟩⟩
  · exact Int.lt_add_one_of_le holds.maxX
  · exact Int.lt_add_one_of_le holds.maxY

end CellBox

/-! ### The cells of a query -/

variable {input : StaticProvenanceQuery}

theorem contains_queryCells :
    (queryCells input).contains key.toInt = true ↔ key ∈ input.occupiedMapCells := by
  -- The set is made of the keys of the query.
  unfold queryCells
  rw [Std.ExtTreeSet.contains_ofList, List.contains_iff_mem, List.mem_map]
  constructor
  · rintro ⟨other, among, same⟩
    rwa [← Int64.toInt_inj.1 same]
  · intro among
    exact ⟨key, among, rfl⟩

theorem mem_queryCells {key : Int} (among : key ∈ (queryCells input).toList) :
    ∃ cell : Int64, cell ∈ input.occupiedMapCells ∧ cell.toInt = key := by
  have contained : (queryCells input).contains key = true := by
    rw [← Std.ExtTreeSet.mem_iff_contains]
    exact Std.ExtTreeSet.mem_toList.1 among
  unfold queryCells at contained
  rw [Std.ExtTreeSet.contains_ofList, List.contains_iff_mem, List.mem_map] at contained
  exact contained

theorem queryCells_congr {other : StaticProvenanceQuery}
    (same : ∀ key, key ∈ other.occupiedMapCells ↔ key ∈ input.occupiedMapCells) :
    queryCells other = queryCells input := by
  -- A set knows neither order nor number.
  apply Std.ExtTreeSet.ext_mem
  intro key
  unfold queryCells
  simp only [Std.ExtTreeSet.mem_ofList, List.contains_iff_mem, List.mem_map, same]

theorem length_eq_card {keys : List Int} (distinct : keys.Nodup) {cells : Finset Int64}
    (same : ∀ key, key ∈ keys ↔ ∃ cell ∈ cells, cell.toInt = key) : keys.length = cells.card := by
  -- No two cells have the same key.
  have image : keys.toFinset = cells.image Int64.toInt := by
    ext key
    rw [List.mem_toFinset, Finset.mem_image, same]
  rw [← List.toFinset_card_of_nodup distinct, image,
    Finset.card_image_of_injective _ fun first second => Int64.toInt_inj.1]

theorem queryCells_size : (queryCells input).size = input.occupiedMapCells.toFinset.card := by
  -- The set lists each of its keys once.
  rw [← Std.ExtTreeSet.length_toList]
  refine length_eq_card ?_ fun key => ?_
  · refine Std.ExtTreeSet.distinct_toList.imp fun differ same => differ ?_
    rw [same]
    exact Std.ReflCmp.compare_self
  · simp only [List.mem_toFinset]
    constructor
    · exact mem_queryCells
    · rintro ⟨cell, among, rfl⟩
      rw [Std.ExtTreeSet.mem_toList, Std.ExtTreeSet.mem_iff_contains]
      exact (contains_queryCells cell).2 among

theorem around_queryCells : (CellBox.around (queryCells input)).Within CellBox.everywhere ∧
    ∀ key ∈ input.occupiedMapCells, (CellBox.around (queryCells input)).Holds key.toInt := by
  constructor
  · refine CellBox.foldl_enclose_within _ ⟨by decide, by decide, by decide, by decide⟩ ?_
    intro key among
    obtain ⟨cell, -, rfl⟩ := mem_queryCells among
    exact CellBox.everywhere_holds cell
  · intro key among
    refine (CellBox.foldl_enclose_holds _ _).2 key.toInt ?_
    rw [Std.ExtTreeSet.mem_toList, Std.ExtTreeSet.mem_iff_contains]
    exact (contains_queryCells key).2 among

/-! ### What stands behind an answer -/

structure Backs (config : StaticObstacleEvidenceConfig) (current : StaticEvidenceSnapshot)
    (input : StaticProvenanceQuery) (cell : StaticEvidenceCell) : Prop where
  snapshotGeneration : current.mapGeneration = input.expectedMapGeneration
  generation : cell.mapGeneration = input.expectedMapGeneration
  confirmed : cell.cleanMapConfirmed = true
  mature : current.authority = .operatorApprovedBaseline ∨
    current.authority = .runtimeMature ∧ cell.temporallyMature = true ∧
      config.minimumObservations ≤ cell.consecutiveObservationCount ∧
      config.minimumStableDurationSec ≤ cell.consecutiveStableDurationSec + stampEpsilonSec
  height : config.minimumHeightOverlap ≤ intervalOverlapRatio input.minZMap input.maxZMap
    cell.minZ cell.maxZ config.heightToleranceM

/-- A cell was observed long enough before the track of the cargo started. -/
structure Precedes (config : StaticObstacleEvidenceConfig) (input : StaticProvenanceQuery)
    (cell : StaticEvidenceCell) : Prop where
  started : 0 < input.cargoTrackStartSequence
  observed : 0 < cell.firstObservationSequence
  gap : cell.firstObservationSequence + config.preCargoMinimumSequenceGap ≤
    input.cargoTrackStartSequence

variable {config : StaticObstacleEvidenceConfig} {current : StaticEvidenceSnapshot}

theorem isStable_iff {cell : StaticEvidenceCell}
    (own : current.mapGeneration = input.expectedMapGeneration) :
    isStable config current input cell = true ↔ Backs config current input cell := by
  -- What the authority asks for is the only difference between the cases.
  unfold isStable stableHistory heightRatio
  cases authority : current.authority with
  | runtimeMature =>
    constructor
    · intro stable
      simp at stable
      obtain ⟨⟨⟨⟨confirmed, mature⟩, generation⟩, count, age⟩, height⟩ := stable
      exact ⟨own, generation, confirmed, .inr ⟨authority, mature, count, age⟩, height⟩
    · rintro ⟨-, generation, confirmed, mature, height⟩
      simp_all
  | operatorApprovedBaseline =>
    constructor
    · intro stable
      simp at stable
      exact ⟨own, stable.1.2, stable.1.1, .inl authority, stable.2⟩
    · rintro ⟨-, generation, confirmed, -, height⟩
      simp_all
  | unverifiedLoadedClean =>
    constructor
    · intro stable
      simp at stable
    · rintro ⟨-, -, -, mature, -⟩
      simp_all

theorem isPreCargo_iff {cell : StaticEvidenceCell} :
    isPreCargo config input cell = true ↔ Precedes config input cell := by
  unfold isPreCargo
  simp only [Bool.and_eq_true, decide_eq_true_eq]
  constructor
  · rintro ⟨⟨⟨started, observed⟩, before⟩, gap⟩
    exact ⟨started, observed, by omega⟩
  · rintro ⟨started, observed, gap⟩
    exact ⟨⟨⟨started, observed⟩, by omega⟩, by omega⟩

open Classical in
noncomputable def backing (config : StaticObstacleEvidenceConfig)
    (current : StaticEvidenceSnapshot) (input : StaticProvenanceQuery)
    (fits : StaticEvidenceCell → Prop) : Finset Int64 :=
  input.occupiedMapCells.toFinset.filter fun key =>
    ∃ cell, current.cells[key.toInt]? = some cell ∧ Backs config current input cell ∧ fits cell

theorem mem_backing {fits : StaticEvidenceCell → Prop} {key : Int64} :
    key ∈ backing config current input fits ↔ key ∈ input.occupiedMapCells ∧
      ∃ cell, current.cells[key.toInt]? = some cell ∧ Backs config current input cell ∧
        fits cell := by
  classical
  unfold backing
  simp only [Finset.mem_filter, List.mem_toFinset]

def Enough (config : StaticObstacleEvidenceConfig) (input : StaticProvenanceQuery)
    (cells : Finset Int64) : Prop :=
  config.minimumMatchedCells ≤ cells.card ∧
    config.minimumCellOverlap ≤ .ofNat cells.card / .ofNat input.occupiedMapCells.toFinset.card

/-- All cells of a query lie in a rectangle that may be scanned. -/
def Bounded (config : StaticObstacleEvidenceConfig) (input : StaticProvenanceQuery) : Prop :=
  ∃ (x y : Int) (width height : Nat), width * height ≤ config.maximumQueryAreaCells ∧
    ∀ key ∈ input.occupiedMapCells,
      (x ≤ (unpackStaticEvidenceCell key.toInt).1 ∧
        (unpackStaticEvidenceCell key.toInt).1 < x + width) ∧
      y ≤ (unpackStaticEvidenceCell key.toInt).2 ∧
        (unpackStaticEvidenceCell key.toInt).2 < y + height

/-! ### What a scan counts -/

variable {self : StaticObstacleEvidenceIndex}

def counts (self : StaticObstacleEvidenceIndex) (input : StaticProvenanceQuery)
    (test : StaticEvidenceCell → Bool) (key : Int) : Bool :=
  (queryCells input).contains key && self.snapshot.cells[key]?.any fun cell =>
    isStable self.config self.snapshot input cell && test cell

theorem visitCell_counts (tally : QueryTally) (key : Int) :
    (self.visitCell input tally key).matched =
        tally.matched + (if self.counts input (fun _ => true) key then 1 else 0) ∧
      (self.visitCell input tally key).preCargoMatched = tally.preCargoMatched +
        (if self.counts input (isPreCargo self.config input) key then 1 else 0) := by
  -- A key without a cell adds nothing.
  unfold visitCell counts
  cases self.snapshot.cells[key]? with
  | none => simp
  | some cell =>
    -- Only a stable cell that is queried is counted here.
    unfold countCell
    by_cases history : stableHistory self.config self.snapshot input cell = true
    · cases queried : (queryCells input).contains key <;>
        cases stable : isStable self.config self.snapshot input cell <;>
        cases preCargo : isPreCargo self.config input cell <;>
        simp [history, stable, preCargo]
    · have stable : isStable self.config self.snapshot input cell = false := by
        rw [isStable, Bool.eq_false_of_not_eq_true history, Bool.false_and]
      simp [history, stable]

theorem foldl_visitCell (keys : List Int) (tally : QueryTally) :
    (keys.foldl (self.visitCell input) tally).matched =
        tally.matched + keys.countP (self.counts input fun _ => true) ∧
      (keys.foldl (self.visitCell input) tally).preCargoMatched =
        tally.preCargoMatched + keys.countP (self.counts input (isPreCargo self.config input)) := by
  -- The induction is on the keys, and the first one adds what it counts for.
  induction keys generalizing tally with
  | nil => exact ⟨rfl, rfl⟩
  | cons key keys ih =>
    obtain ⟨matched, preCargo⟩ := ih (self.visitCell input tally key)
    obtain ⟨first, first'⟩ := @visitCell_counts input self tally key
    rw [List.foldl_cons, List.countP_cons, List.countP_cons, matched, preCargo, first, first']
    omega

theorem countP_scan {test : StaticEvidenceCell → Bool} {fits : StaticEvidenceCell → Prop}
    (own : self.snapshot.mapGeneration = input.expectedMapGeneration)
    (meaning : ∀ cell, test cell = true ↔ fits cell) :
    (CellBox.around (queryCells input)).scan.countP (self.counts input test) =
      (backing self.config self.snapshot input fits).card := by
  -- Every cell of the query lies in the box, and no key is visited twice.
  obtain ⟨within, holds⟩ := @around_queryCells input
  rw [List.countP_eq_length_filter]
  refine length_eq_card ((CellBox.scan_nodup within).filter _) fun key => ?_
  simp only [List.mem_filter, mem_backing, counts, Bool.and_eq_true, Option.any_eq_true,
    isStable_iff own, meaning]
  constructor
  · rintro ⟨-, queried, cell, found, backs⟩
    obtain ⟨place, among, rfl⟩ := @mem_queryCells input key
      (by rwa [Std.ExtTreeSet.mem_toList, Std.ExtTreeSet.mem_iff_contains])
    exact ⟨place, ⟨among, cell, found, backs⟩, rfl⟩
  · rintro ⟨place, ⟨among, cell, found, backs⟩, rfl⟩
    exact ⟨CellBox.mem_scan (holds place among), (contains_queryCells place).2 among, cell, found,
      backs⟩

/-! ### Which queries are scanned -/

theorem setConfig_validConfig (raw : StaticObstacleEvidenceConfig) :
    validConfig (setConfig raw).config = true := by
  -- Unusable limits are replaced by the defaults.
  show validConfig (if validConfig raw then raw else {}) = true
  by_cases valid : validConfig raw = true
  · rw [if_pos valid]
    exact valid
  · rw [if_neg valid]
    with_unfolding_all decide

theorem limits_of_validConfig (valid : validConfig config = true) : 0 < config.minimumMatchedCells ∧
      config.maximumQueryAreaCells ≤ 65536 ∧ 0 < config.minimumHeightOverlap := by
  unfold validConfig validShare maximumBoundedQueryCells at valid
  simp only [Bool.and_eq_true, decide_eq_true_eq] at valid
  tauto

theorem exceeds_eq_false {key : Int64} (valid : config.maximumQueryAreaCells ≤ 65536)
    (bounded : Bounded config input) (among : key ∈ input.occupiedMapCells) :
    (CellBox.around (queryCells input)).exceeds config.maximumQueryAreaCells = false := by
  -- The box is the smallest rectangle, and it is not empty since it holds a cell.
  obtain ⟨x, y, width, height, area, rectangle⟩ := bounded
  obtain ⟨first, second⟩ := unpack_coordinates key
  obtain ⟨column, line⟩ := rectangle key among
  have held := (@around_queryCells input).2 key among
  have within : (CellBox.around (queryCells input)).Within
      ⟨x, x + width - 1, y, y + height - 1⟩ := by
    refine CellBox.foldl_enclose_within _ ?_ ?_
    · obtain ⟨low, high⟩ := first
      obtain ⟨low', high'⟩ := second
      constructor <;> simp <;> omega
    · intro other queried
      obtain ⟨place, inside, rfl⟩ := mem_queryCells queried
      obtain ⟨column', line'⟩ := rectangle place inside
      constructor <;> simp <;> omega
  obtain ⟨left, right, low, high⟩ := within
  obtain ⟨left', right', low', high'⟩ := held
  simp only at left right low high
  have wide : (CellBox.around (queryCells input)).width ≤ width := by
    unfold CellBox.width
    omega
  have tall : (CellBox.around (queryCells input)).height ≤ height := by
    unfold CellBox.height
    omega
  rw [CellBox.exceeds_iff valid]
  refine ⟨by unfold CellBox.width; omega, by unfold CellBox.height; omega, ?_⟩
  have product : (CellBox.around (queryCells input)).width *
      (CellBox.around (queryCells input)).height ≤ width * height :=
    mul_le_mul wide tall (by unfold CellBox.height; omega) (by omega)
  exact product.trans (by exact_mod_cast area)

theorem usableHeights {queryMin queryMax cellMin cellMax tolerance least : Scalar}
    (positive : 0 < least)
    (overlap : least ≤ intervalOverlapRatio queryMin queryMax cellMin cellMax tolerance) :
    queryMin.isFinite = true ∧ queryMax.isFinite = true ∧ ¬queryMax < queryMin := by
  -- Unusable heights have nothing in common.
  by_contra unusable
  have nothing : intervalOverlapRatio queryMin queryMax cellMin cellMax tolerance = 0 := by
    unfold intervalOverlapRatio
    rw [if_pos]
    simp only [Bool.or_eq_true, Bool.not_eq_true', decide_eq_true_eq]
    cases lower : queryMin.isFinite <;> cases upper : queryMax.isFinite <;> simp_all
  rw [nothing] at overlap
  exact Scalar.not_lt_of_le overlap positive

theorem admit_eq_ok {fits : StaticEvidenceCell → Prop}
    (valid : validConfig self.config = true) (bounded : Bounded self.config input)
    (enough : Enough self.config input (backing self.config self.snapshot input fits)) :
    self.admission input = .ok (CellBox.around (queryCells input)) := by
  -- Enough cells are at least one.
  obtain ⟨some', small, positive⟩ := limits_of_validConfig valid
  obtain ⟨key, backed⟩ : (backing self.config self.snapshot input fits).Nonempty :=
    Finset.card_pos.1 (lt_of_lt_of_le some' enough.1)
  obtain ⟨queried, cell, found, backs, -⟩ := mem_backing.1 backed
  -- One cell that backs the query rules out every refusal but the one for its area.
  have filled : self.snapshot.cells.isEmpty = false := by
    rw [← Bool.not_eq_true, Std.ExtTreeMap.isEmpty_iff]
    intro empty
    rw [empty] at found
    simp at found
  have trusted : (self.snapshot.authority == .unverifiedLoadedClean) = false := by
    rw [beq_eq_false_iff_ne]
    intro same
    rcases backs.mature with other | ⟨other, -⟩ <;> rw [same] at other <;> cases other
  have asked : input.occupiedMapCells.isEmpty = false := by
    rw [List.isEmpty_eq_false_iff]
    exact List.ne_nil_of_mem queried
  obtain ⟨lower, upper, ordered⟩ := usableHeights positive backs.height
  unfold admission
  simp only [filled, trusted, asked, lower, upper, ordered, exceeds_eq_false small bounded queried,
    backs.snapshotGeneration, bne_self_eq_false, Bool.false_eq_true, if_false, Bool.not_true,
    decide_false, Bool.or_self]

theorem admission_ok {box : CellBox} (admitted : self.admission input = .ok box) :
    self.snapshot.mapGeneration = input.expectedMapGeneration ∧ input.occupiedMapCells ≠ [] ∧
      box = CellBox.around (queryCells input) ∧
      box.exceeds self.config.maximumQueryAreaCells = false := by
  -- All tests in front of the scan have let the query pass.
  unfold admission at admitted
  simp only at admitted
  split_ifs at admitted with empty mismatch unverified invalid exceeded
  have own : self.snapshot.mapGeneration = input.expectedMapGeneration := by simpa using mismatch
  have asked : input.occupiedMapCells ≠ [] := by
    intro none
    simp [none] at invalid
  obtain rfl := Except.ok.inj admitted
  exact ⟨own, asked, rfl, Bool.eq_false_of_not_eq_true exceeded⟩

theorem admit_error {decision : StaticProvenanceDecision}
    (refused : self.admission input = .error decision) :
    decision.authorized = false ∧ decision.provenance = .none := by
  -- Every refusal keeps what an answer starts with.
  unfold admission at refused
  simp only at refused
  split_ifs at refused <;> (obtain rfl := Except.error.inj refused; exact ⟨rfl, rfl⟩)

/-! ### The answer -/

theorem ratio_eq (count : Nat) (asked : input.occupiedMapCells ≠ []) :
    ratio (queryCells input).size count =
      .ofNat count / .ofNat input.occupiedMapCells.toFinset.card := by
  have some' : input.occupiedMapCells.toFinset.card ≠ 0 := by
    simpa [Finset.card_eq_zero] using asked
  rw [ratio, queryCells_size, if_neg (by simpa using some')]

theorem share_mono {few many whole : Nat} (fewer : few ≤ many) (some' : whole ≠ 0) :
    (.ofNat few / .ofNat whole : Scalar) ≤ .ofNat many / .ofNat whole := by
  have quotient : ∀ count : Nat,
      (.ofNat count / .ofNat whole : Scalar) = .fin (count / whole : ℚ) := fun count =>
    if_neg (Nat.cast_ne_zero.2 some')
  rw [quotient, quotient, Scalar.fin_le_fin]
  have order : (few : ℚ) ≤ many := by exact_mod_cast fewer
  gcongr

theorem conclude_iff (tally : QueryTally) :
    ((self.conclude input tally).provenance = .preCargoOccupancy ↔
        self.config.minimumMatchedCells ≤ tally.preCargoMatched ∧
          self.config.minimumCellOverlap ≤ ratio (queryCells input).size tally.preCargoMatched) ∧
      ((self.conclude input tally).authorized = true ↔
        (self.config.minimumMatchedCells ≤ tally.preCargoMatched ∧
          self.config.minimumCellOverlap ≤ ratio (queryCells input).size tally.preCargoMatched) ∨
        self.config.minimumMatchedCells ≤ tally.matched ∧
          self.config.minimumCellOverlap ≤ ratio (queryCells input).size tally.matched) := by
  -- The cells from before the cargo are asked for first.
  unfold conclude
  simp only [Bool.and_eq_true, decide_eq_true_eq]
  by_cases preCargo : self.config.minimumMatchedCells ≤ tally.preCargoMatched ∧
      self.config.minimumCellOverlap ≤ ratio (queryCells input).size tally.preCargoMatched
  · simp [preCargo]
  · by_cases static : self.config.minimumMatchedCells ≤ tally.matched ∧
        self.config.minimumCellOverlap ≤ ratio (queryCells input).size tally.matched
    · simp [preCargo, static]
    · simp [preCargo, static, emptyDecision]

theorem query_admitted {box : CellBox} (admitted : self.admission input = .ok box) :
    ((self.query input).provenance = .preCargoOccupancy ↔
        Enough self.config input
          (backing self.config self.snapshot input (Precedes self.config input))) ∧
      ((self.query input).authorized = true ↔
        Enough self.config input
            (backing self.config self.snapshot input (Precedes self.config input)) ∨
          Enough self.config input (backing self.config self.snapshot input fun _ => True)) := by
  -- The counts of the scan are numbers of cells.
  obtain ⟨own, asked, rfl, -⟩ := admission_ok admitted
  let tally := (CellBox.around (queryCells input)).scan.foldl (self.visitCell input) {}
  have counted := @foldl_visitCell input self (CellBox.around (queryCells input)).scan {}
  have all := @countP_scan input self (fun _ => true) (fun _ => True) own fun _ => by simp
  have early := @countP_scan input self (isPreCargo self.config input)
    (Precedes self.config input) own fun _ => isPreCargo_iff
  have matched : tally.matched =
      (backing self.config self.snapshot input fun _ => True).card := by
    rw [← all]
    exact counted.1.trans (Nat.zero_add _)
  have preCargo : tally.preCargoMatched =
      (backing self.config self.snapshot input (Precedes self.config input)).card := by
    rw [← early]
    exact counted.2.trans (Nat.zero_add _)
  have answer : self.query input = self.conclude input tally := by
    unfold query
    rw [admitted]
  have shares := @conclude_iff input self tally
  rw [matched, preCargo, ratio_eq _ asked, ratio_eq _ asked, ← answer] at shares
  exact shares

theorem Enough.of_precedes (asked : input.occupiedMapCells ≠ [])
    (enough : Enough self.config input
      (backing self.config self.snapshot input (Precedes self.config input))) :
    Enough self.config input (backing self.config self.snapshot input fun _ => True) := by
  -- Both shares are ones of the same query.
  have fewer : (backing self.config self.snapshot input (Precedes self.config input)).card ≤
      (backing self.config self.snapshot input fun _ => True).card := by
    refine Finset.card_le_card fun key among => ?_
    obtain ⟨queried, cell, found, backs, -⟩ := mem_backing.1 among
    exact mem_backing.2 ⟨queried, cell, found, backs, trivial⟩
  have some' : input.occupiedMapCells.toFinset.card ≠ 0 := by
    simpa [Finset.card_eq_zero] using asked
  exact ⟨enough.1.trans fewer, Scalar.le_trans enough.2 (share_mono fewer some')⟩

theorem query_congr {cells : List Int64}
    (same : ∀ key, key ∈ cells ↔ key ∈ input.occupiedMapCells) :
    self.query { input with occupiedMapCells := cells } = self.query input := by
  -- The list of keys is read for its set, and for whether there are any.
  have set : queryCells { input with occupiedMapCells := cells } = queryCells input :=
    queryCells_congr same
  have none : cells.isEmpty = input.occupiedMapCells.isEmpty := by
    rw [Bool.eq_iff_iff, List.isEmpty_iff, List.isEmpty_iff, List.eq_nil_iff_forall_not_mem,
      List.eq_nil_iff_forall_not_mem]
    simp only [same]
  have visit : self.visitCell { input with occupiedMapCells := cells } =
      self.visitCell input := by
    funext tally key
    unfold visitCell countCell
    rw [set]
    rfl
  have admitted : self.admission { input with occupiedMapCells := cells } =
      self.admission input := by
    unfold admission
    rw [set, none]
    rfl
  unfold query conclude
  rw [admitted, visit, set]
  rfl

/-- An answer that authorizes rests on enough cells, and every query that has them is authorized. -/
theorem query_exact (raw : StaticObstacleEvidenceConfig) (current : StaticEvidenceSnapshot)
    (input : StaticProvenanceQuery) :
    let index := { setConfig raw with snapshot := current }
    ((index.query input).authorized = true →
        Enough index.config input (backing index.config current input fun _ => True)) ∧
      ((index.query input).provenance = .preCargoOccupancy →
        Enough index.config input
          (backing index.config current input (Precedes index.config input))) ∧
      (Bounded index.config input →
        Enough index.config input (backing index.config current input fun _ => True) →
        (index.query input).authorized = true) ∧
      (∀ cells, (∀ key, key ∈ cells ↔ key ∈ input.occupiedMapCells) →
        index.query { input with occupiedMapCells := cells } = index.query input) ∧
      (index.visited input).length ≤ index.config.maximumQueryAreaCells := by
  -- A refused query authorizes nothing, and a scanned one is answered by its cells.
  intro index
  have valid : validConfig index.config = true := setConfig_validConfig raw
  have small := (limits_of_validConfig valid).2.1
  refine ⟨fun authorized => ?_, fun preCargo => ?_, fun bounded enough => ?_,
    fun cells same => query_congr same, ?_⟩
  · cases admitted : index.admission input with
    | error decision =>
      rw [query, admitted, (admit_error admitted).1] at authorized
      cases authorized
    | ok box =>
      rcases (query_admitted admitted).2.1 authorized with preCargo | static
      · exact preCargo.of_precedes (admission_ok admitted).2.1
      · exact static
  · cases admitted : index.admission input with
    | error decision =>
      rw [query, admitted, (admit_error admitted).2] at preCargo
      cases preCargo
    | ok box => exact (query_admitted admitted).1.1 preCargo
  · exact (query_admitted (admit_eq_ok valid bounded enough)).2.2 (.inr enough)
  · unfold visited
    cases admitted : index.admission input with
    | error decision => exact Nat.zero_le _
    | ok box =>
      -- The sides are numbers of cells, so that nothing is lost where they are multiplied.
      obtain ⟨width, height, area⟩ := (CellBox.exceeds_iff small).1 (admission_ok admitted).2.2.2
      rw [CellBox.scan_length]
      have product : (box.width.toNat : Int) * box.height.toNat = box.width * box.height := by
        rw [Int.toNat_of_nonneg width.le, Int.toNat_of_nonneg height.le]
      exact_mod_cast product.trans_le area

example :
    let cell : StaticEvidenceCell := { minZ := 0, maxZ := 1, cleanMapConfirmed := true }
    let index : StaticObstacleEvidenceIndex :=
      { config := { minimumMatchedCells := 1 }
        snapshot :=
          { authority := .operatorApprovedBaseline, cells := .ofList [(7, cell)] compare } }
    (index.query { occupiedMapCells := [7, 7], minZMap := 0, maxZMap := 1 }).reason =
      "operator_approved_static_map_match" := by
  with_unfolding_all decide

end StaticObstacleEvidenceIndex
end NdtSlam
