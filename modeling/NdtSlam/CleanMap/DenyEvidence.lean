import NdtSlam.CleanMap.Builder

/-! Where the evidence against a point keeps it out of the clean map. -/

namespace NdtSlam
namespace CleanMap

section Points

variable {input : CleanMapBuildInput} {cell : CleanMapCell} {point : Vec3}

theorem mem_pointsIn {points : List Vec3} :
    point ∈ pointsIn input points cell ↔
      point ∈ points ∧ point.allFinite = true ∧ cellFor point input.cellSizeM = cell := by
  simp [pointsIn]

theorem mem_objectCells :
    cell ∈ objectCells input ↔
      ∃ object ∈ input.objectPoints, object.allFinite = true ∧
        cellFor object input.cellSizeM = cell := by
  unfold objectCells
  rw [List.mem_insertionSort, List.mem_dedup, List.mem_map]
  constructor
  · rintro ⟨object, member, same⟩
    obtain ⟨among, finite⟩ := List.mem_filter.mp member
    exact ⟨object, among, finite, same⟩
  · rintro ⟨object, among, finite, same⟩
    exact ⟨object, List.mem_filter.mpr ⟨among, finite⟩, same⟩

theorem lowest_isFinite {points : List Vec3} (finite : ∀ point ∈ points, point.allFinite = true)
    {start : Scalar} (startFinite : start.isFinite = true) :
    (points.foldl (fun lowest point => Scalar.minOf lowest point.z) start).isFinite = true := by
  -- Each step keeps one of two finite heights.
  induction points generalizing start with
  | nil => exact startFinite
  | cons head rest ih =>
    refine ih (fun point member => finite point (List.mem_cons_of_mem _ member)) ?_
    have headFinite := finite head List.mem_cons_self
    simp only [Vec3.allFinite, Bool.and_eq_true] at headFinite
    show (Scalar.minOf start head.z).isFinite = true
    unfold Scalar.minOf
    split_ifs
    · exact headFinite.2
    · exact startFinite

theorem globalMinZ_isFinite (member : point ∈ input.objectPoints)
    (finite : point.allFinite = true) : (globalMinZ input).isFinite = true := by
  unfold globalMinZ
  have among : point ∈ input.objectPoints.filter Vec3.allFinite :=
    List.mem_filter.mpr ⟨member, finite⟩
  have allFinite : ∀ other ∈ input.objectPoints.filter Vec3.allFinite,
      other.allFinite = true := fun other kept => (List.mem_filter.mp kept).2
  generalize input.objectPoints.filter Vec3.allFinite = points at among allFinite
  -- The first point replaces the infinity that the search starts from.
  cases points with
  | nil => cases among
  | cons head rest =>
    refine lowest_isFinite (fun other kept => allFinite other (List.mem_cons_of_mem _ kept)) ?_
    have headFinite := allFinite head List.mem_cons_self
    simp only [Vec3.allFinite, Bool.and_eq_true] at headFinite
    obtain ⟨height, heightEq⟩ := Scalar.isFinite_iff.1 headFinite.2
    show (Scalar.minOf .posInf head.z).isFinite = true
    rw [heightEq]
    rfl

end Points

section Visits

variable [EuclideanNorm] {input : CleanMapBuildInput} {cell : CleanMapCell} {point : Vec3}

def taken (input : CleanMapBuildInput) (cell : CleanMapCell) : List Vec3 :=
  (visitCell input {} cell).cleanPoints

theorem visitCell_cleanPoints (before : CleanMapBuildResult) :
    (visitCell input before cell).cleanPoints = before.cleanPoints ++ taken input cell := by
  unfold taken visitCell
  dsimp only
  split_ifs
  · simp [protectCell, List.append_assoc]
  · simp [denyCell]
  · simp [keepHumanCell]
  · simp [retainCell]
  · simp
  · simp [learnCell]

theorem visits_cleanPoints (cells : List CleanMapCell) (before : CleanMapBuildResult) :
    (cells.foldl (visitCell input) before).cleanPoints =
      before.cleanPoints ++ cells.flatMap (taken input) := by
  induction cells generalizing before with
  | nil => simp
  | cons head rest ih =>
    rw [List.foldl_cons, ih, visitCell_cleanPoints, List.flatMap_cons, List.append_assoc]

def hiddenByHuman (input : CleanMapBuildInput) (cell : CleanMapCell) : Prop :=
  input.protectCells.contains cell = false ∧ input.denyCells.contains cell = false ∧
    input.useHumanDeny = true ∧ input.humanDenyCells.contains cell = true

theorem taken_sound (member : point ∈ taken input cell) :
    cellFor point input.cellSizeM = cell ∧
      (input.protectCells.contains cell = true ∨
        input.denyCells.contains cell = false ∧
          (hiddenByHuman input cell ∧ point ∈ pointsIn input input.previousCleanPoints cell ∨
            deniedInVolume input cell point = false)) := by
  unfold taken visitCell at member
  dsimp only at member
  split_ifs at member with shielded barred hidden
  · -- A protected cell takes its objects and the payload candidates.
    refine ⟨?_, .inl shielded⟩
    simp only [protectCell, List.nil_append, List.mem_append] at member
    rcases member with object | payload
    · exact (mem_pointsIn.1 object).2.2
    · exact (mem_pointsIn.1 payload).2.2
  · simp [denyCell] at member
  · simp only [keepHumanCell, List.nil_append] at member
    obtain ⟨inUse, human⟩ := Bool.and_eq_true_iff.mp hidden
    refine ⟨(mem_pointsIn.1 member).2.2, .inr ⟨Bool.eq_false_iff.mpr barred, .inl ⟨?_, member⟩⟩⟩
    exact ⟨Bool.eq_false_iff.mpr shielded, Bool.eq_false_iff.mpr barred, inUse, human⟩
  · simp only [retainCell, List.nil_append] at member
    obtain ⟨known, admitted⟩ := List.mem_filter.mp member
    exact ⟨(mem_pointsIn.1 known).2.2, .inr ⟨Bool.eq_false_iff.mpr barred,
      .inr (by simpa using admitted)⟩⟩
  · cases member
  · simp only [learnCell, List.nil_append] at member
    obtain ⟨object, admitted⟩ := List.mem_filter.mp member
    exact ⟨(mem_pointsIn.1 object).2.2, .inr ⟨Bool.eq_false_iff.mpr barred,
      .inr (by simpa using admitted)⟩⟩

theorem taken_of_hidden (hidden : hiddenByHuman input cell) :
    taken input cell = pointsIn input input.previousCleanPoints cell := by
  obtain ⟨unprotected, allowed, inUse, human⟩ := hidden
  unfold taken visitCell
  dsimp only
  rw [if_neg (by simp [unprotected]), if_neg (by simp [allowed]), if_pos (by simp [inUse, human])]
  rfl

def accepted (input : CleanMapBuildInput) : Prop :=
  input.cellSizeM.isFinite = true ∧ ¬input.cellSizeM ≤ 0 ∧
    ¬(1000 < input.objectPoints.length ∧ input.observationCounts.isEmpty = true)

theorem mem_cleanPoints :
    point ∈ (buildCleanMapFromSnapshot input).cleanPoints ↔
      accepted input ∧ ∃ cell ∈ objectCells input, point ∈ taken input cell := by
  unfold buildCleanMapFromSnapshot
  by_cases badSize : (!input.cellSizeM.isFinite || decide (input.cellSizeM ≤ 0)) = true
  · -- Without a usable cell size nothing is built.
    rw [if_pos badSize]
    simp only [Bool.or_eq_true, Bool.not_eq_true', decide_eq_true_eq] at badSize
    constructor
    · intro member
      cases member
    · rintro ⟨⟨finite, positive, -⟩, -⟩
      rcases badSize with infinite | low
      · exact absurd (finite.symm.trans infinite) (by simp)
      · exact absurd low positive
  rw [if_neg badSize]
  by_cases noObjects : input.objectPoints.isEmpty = true
  · rw [if_pos noObjects]
    constructor
    · intro member
      cases member
    · rintro ⟨-, cell, object, -⟩
      obtain ⟨source, among, -⟩ := mem_objectCells.1 object
      rw [List.isEmpty_iff.mp noObjects] at among
      cases among
  rw [if_neg noObjects]
  by_cases noHistory : (decide (1000 < input.objectPoints.length) &&
      input.observationCounts.isEmpty) = true
  · rw [if_pos noHistory]
    simp only [Bool.and_eq_true, decide_eq_true_eq] at noHistory
    constructor
    · intro member
      cases member
    · rintro ⟨⟨-, -, history⟩, -⟩
      exact absurd noHistory history
  rw [if_neg noHistory]
  simp only [Bool.or_eq_true, Bool.not_eq_true', decide_eq_true_eq, not_or,
    Bool.not_eq_false] at badSize
  simp only [Bool.and_eq_true, decide_eq_true_eq] at noHistory
  by_cases allInfinite : (!(globalMinZ input).isFinite) = true
  · -- A finite object point would have a finite height.
    rw [if_pos allInfinite]
    constructor
    · intro member
      cases member
    · rintro ⟨-, cell, object, -⟩
      obtain ⟨source, among, finite, -⟩ := mem_objectCells.1 object
      simp [globalMinZ_isFinite among finite] at allInfinite
  rw [if_neg allInfinite]
  dsimp only
  rw [visits_cleanPoints, List.nil_append, List.mem_flatMap]
  constructor
  · intro found
    exact ⟨⟨badSize.1, badSize.2, noHistory⟩, found⟩
  · intro found
    exact found.2

end Visits

section DenyWins

variable [EuclideanNorm]

def deniedByRanges (input : CleanMapBuildInput) (point : Vec3) : Prop :=
  ∃ ranges, input.denyRanges[cellFor point input.cellSizeM]? = some ranges ∧
    pointDeniedByRange point ranges = true

/-- Outside protected cells, the clean map holds no point that the evidence speaks against. -/
def DenyWins (input : CleanMapBuildInput) : Prop :=
  ∀ point ∈ (buildCleanMapFromSnapshot input).cleanPoints,
    input.protectCells.contains (cellFor point input.cellSizeM) = false →
      ¬deniedByRanges input point ∧
        input.denyCells.contains (cellFor point input.cellSizeM) = false

/-- What is known of the object cells that a person may hide lies in none of their ranges. -/
def HiddenCellsClean (input : CleanMapBuildInput) : Prop :=
  accepted input → ∀ object ∈ input.objectPoints, object.allFinite = true →
    hiddenByHuman input (cellFor object input.cellSizeM) →
      ∀ known ∈ input.previousCleanPoints, known.allFinite = true →
        cellFor known input.cellSizeM = cellFor object input.cellSizeM →
          ¬deniedByRanges input known

omit [EuclideanNorm] in
theorem not_deniedByRanges {input : CleanMapBuildInput} (use3dDeny : input.use3dDeny = true)
    {point : Vec3}
    (passed : deniedInVolume input (cellFor point input.cellSizeM) point = false) :
    ¬deniedByRanges input point := by
  rintro ⟨ranges, found, denied⟩
  simp [deniedInVolume, use3dDeny, found, denied] at passed

/-- The evidence wins exactly if no hidden cell keeps a point that its ranges deny. -/
theorem denyWins_iff (input : CleanMapBuildInput) (use3dDeny : input.use3dDeny = true) :
    DenyWins input ↔ HiddenCellsClean input := by
  constructor
  · intro wins usable object among finite hidden known wasClean knownFinite same
    -- A hidden cell keeps the known point, so the evidence must not speak against it.
    have kept : known ∈ taken input (cellFor object input.cellSizeM) := by
      rw [taken_of_hidden hidden]
      exact mem_pointsIn.2 ⟨wasClean, knownFinite, same⟩
    have built : known ∈ (buildCleanMapFromSnapshot input).cleanPoints :=
      mem_cleanPoints.2 ⟨usable, _, mem_objectCells.2 ⟨object, among, finite, rfl⟩, kept⟩
    exact (wins known built (by rw [same]; exact hidden.1)).1
  · intro clean point member unprotected
    obtain ⟨usable, cell, object, kept⟩ := mem_cleanPoints.1 member
    obtain ⟨source, among, finite, sameCell⟩ := mem_objectCells.1 object
    obtain ⟨rfl, shielded | ⟨allowed, course⟩⟩ := taken_sound kept
    · exact absurd (shielded.symm.trans unprotected) (by simp)
    refine ⟨?_, allowed⟩
    rcases course with ⟨hidden, known⟩ | passed
    · -- What a hidden cell keeps was known of it before.
      obtain ⟨wasClean, knownFinite, -⟩ := mem_pointsIn.1 known
      exact clean usable source among finite (by rw [sameCell]; exact hidden) point wasClean
        knownFinite sameCell.symm
    · exact not_deniedByRanges use3dDeny passed

end DenyWins

section Sources

variable [EuclideanNorm] {input : CleanMapBuildInput} {point : Vec3}

/-- A build takes all of a protected cell, and the objects of one that was seen well enough. -/
def Learns (input : CleanMapBuildInput) (point : Vec3) : Prop :=
  let cell := cellFor point input.cellSizeM
  if input.protectCells.contains cell then
    point ∈ input.objectPoints ∨ point ∈ input.payloadCandidatePoints
  else point ∈ input.objectPoints ∧ input.denyCells.contains cell = false ∧
    minimumObservationsForDistance (meanDistance input cell) ≤
      input.observationCounts[cell]?.getD 0 ∧
    3 ≤ (pointsIn input input.objectPoints cell).length

/-- The clean layer after builds that each start from the one before, and are taken or not. -/
def layerAfter (loaded : List Vec3) : List (CleanMapBuildInput × Bool) → List Vec3
  | [] => loaded
  | (input, current) :: older =>
    let result := buildCleanMapFromSnapshot
      { input with previousCleanPoints := layerAfter loaded older }
    if current && result.valid then result.cleanPoints else layerAfter loaded older

theorem taken_source {cell : CleanMapCell} (member : point ∈ taken input cell) :
    Learns input point ∨ point ∈ input.previousCleanPoints := by
  obtain rfl := (taken_sound member).1
  unfold taken visitCell at member
  unfold Learns
  dsimp only at member ⊢
  split_ifs at member ⊢ with shielded barred hidden rare poor
  · exact .inl ((List.mem_append.mp member).imp (mem_pointsIn.1 · |>.1) (mem_pointsIn.1 · |>.1))
  · cases member
  · exact .inr (mem_pointsIn.1 member).1
  · exact .inr (mem_pointsIn.1 (List.mem_of_mem_filter member)).1
  · cases member
  · rw [Bool.or_eq_true, not_or] at poor
    exact .inl ⟨(mem_pointsIn.1 (List.mem_of_mem_filter member)).1, Bool.eq_false_iff.mpr barred,
      not_lt.mp rare, by simpa using poor.2⟩

/-- Every point of the layer was loaded, or some build that was taken has learned it. -/
theorem layer_only_learned {loaded : List Vec3} {builds : List (CleanMapBuildInput × Bool)}
    (shown : point ∈ layerAfter loaded builds) :
    point ∈ loaded ∨ ∃ input, (input, true) ∈ builds ∧ Learns input point := by
  induction builds with
  | nil => exact .inl shown
  | cons build older ih =>
    have earlier (kept : point ∈ layerAfter loaded older) := (ih kept).imp_right
      (Exists.imp fun _ => And.imp_left (List.mem_cons_of_mem build))
    obtain ⟨input, current⟩ := build
    unfold layerAfter at shown
    dsimp only at shown
    split_ifs at shown with taken
    · -- Either the build has learned the point, or it has found it in the layer.
      obtain ⟨-, cell, -, among⟩ := mem_cleanPoints.1 shown
      rcases taken_source among with learns | known
      · obtain rfl := (Bool.and_eq_true_iff.mp taken).1
        exact .inr ⟨input, List.mem_cons_self, learns⟩
      · exact earlier known
    · exact earlier shown

end Sources

section Samples

attribute [local instance] axisNorm
attribute [local semireducible] Rat.add Rat.sub Rat.mul Rat.inv Rat.ofScientific

def hiddenCargo : CleanMapBuildInput :=
  { objectPoints := [⟨0.05, 0.05, 0.1⟩]
    previousCleanPoints := [⟨0.04, 0.04, 0.1⟩, ⟨0.05, 0.05, 0.7⟩]
    humanDenyCells := Std.TreeSet.ofList [(0, 0)] compareCells
    denyRanges := Std.TreeMap.ofList [((0, 0), [⟨0.5, 0.9⟩])] compareCells
    useHumanDeny := true
    use3dDeny := true }

theorem hidden_cell_keeps_denied_point :
    ¬∀ input : CleanMapBuildInput, input.use3dDeny = true → DenyWins input := by
  intro wins
  have outcome := wins hiddenCargo rfl ⟨0.05, 0.05, 0.7⟩ (by decide) (by decide)
  exact outcome.1 ⟨[⟨0.5, 0.9⟩], by decide, by decide⟩

theorem hidden_shelf_learned :
    let shelf : CleanMapBuildInput := {
      objectPoints := [⟨0.05, 0.05, 0.7⟩]
      protectCells := Std.TreeSet.ofList [(0, 0)] compareCells }
    ∃ input, (input, true) ∈ [(hiddenCargo, true), (shelf, true)] ∧
      Learns input ⟨0.05, 0.05, 0.7⟩ :=
  (@layer_only_learned axisNorm ⟨0.05, 0.05, 0.7⟩ [] _ (by decide)).resolve_left
    List.not_mem_nil

theorem denyWins_without_human :
    DenyWins { hiddenCargo with useHumanDeny := false } := by
  refine (denyWins_iff { hiddenCargo with useHumanDeny := false } rfl).mpr ?_
  intro _ object _ _ hidden
  exact absurd hidden.2.2.1 (by decide)

end Samples

end CleanMap
end NdtSlam
