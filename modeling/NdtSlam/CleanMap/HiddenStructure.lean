import Mathlib.Data.Prod.Lex
import NdtSlam.CleanMap.DenyEvidence
import NdtSlam.Foundation.KeyedSort

/-! What becomes of the structure that a person hides, and what the order of the points matters. -/

namespace NdtSlam
namespace CleanMap

/-! ### The order of the points -/

inductive Rearranged (input : CleanMapBuildInput) : CleanMapBuildInput → Prop
  | intro {objects previous payload : List Vec3} (objectsPerm : input.objectPoints.Perm objects)
    (previousPerm : input.previousCleanPoints.Perm previous)
    (payloadPerm : input.payloadCandidatePoints.Perm payload) :
    Rearranged input { input with
      objectPoints := objects
      previousCleanPoints := previous
      payloadCandidatePoints := payload }

structure SameWithinCells (cellSize : Scalar) (left right : CleanMapBuildResult) : Prop where
  points : left.cleanPoints.Perm right.cleanPoints
  cells : (left.cleanPoints.map fun point => cellFor point cellSize) =
    right.cleanPoints.map fun point => cellFor point cellSize
  counters : { left with cleanPoints := [] } = { right with cleanPoints := [] }

section Order

variable {input other : CleanMapBuildInput} {cell : CleanMapCell}

theorem Rearranged.pointsIn (same : Rearranged input other) :
    (pointsIn input input.objectPoints cell).Perm (pointsIn other other.objectPoints cell) ∧
      (pointsIn input input.previousCleanPoints cell).Perm
        (pointsIn other other.previousCleanPoints cell) ∧
      (pointsIn input input.payloadCandidatePoints cell).Perm
        (pointsIn other other.payloadCandidatePoints cell) ∧
      deniedInVolume other cell = deniedInVolume input cell := by
  obtain ⟨objectsPerm, previousPerm, payloadPerm⟩ := same
  exact ⟨objectsPerm.filter _, previousPerm.filter _, payloadPerm.filter _, rfl⟩

theorem compareCells_isLE (first second : CleanMapCell) :
    (compareCells first second).isLE = true ↔ toLex first ≤ toLex second := by
  rw [Prod.Lex.le_iff]
  simp [compareCells, compareLex, compareOn, Ordering.isLE_then_iff_or, compare_lt_iff_lt,
    Std.isLE_compare]

theorem minOf_right_comm (start : Scalar) (a b : ℚ) :
    Scalar.minOf (.minOf start (.fin a)) (.fin b) =
      Scalar.minOf (.minOf start (.fin b)) (.fin a) := by
  cases start with
  | fin start => simp [min_right_comm]
  | nan => rfl
  | negInf => rfl
  | posInf =>
    show Scalar.minOf (.fin a) (.fin b) = Scalar.minOf (.fin b) (.fin a)
    simp [min_comm]

theorem maxOf_right_comm (start : Scalar) (a b : ℚ) :
    Scalar.maxOf (.maxOf start (.fin a)) (.fin b) =
      Scalar.maxOf (.maxOf start (.fin b)) (.fin a) := by
  cases start with
  | fin start => simp [max_right_comm]
  | nan => rfl
  | posInf => rfl
  | negInf =>
    show Scalar.maxOf (.fin a) (.fin b) = Scalar.maxOf (.fin b) (.fin a)
    simp [max_comm]

theorem scalar_add_right_comm (a b c : Scalar) : a + b + c = a + c + b := by
  -- Only the sum of three numbers takes arithmetic.
  cases a <;> cases b <;> cases c <;> first | rfl | simp [add_right_comm]

theorem Rearranged.cells_eq (same : Rearranged input other) :
    objectCells other = objectCells input ∧ globalMinZ other = globalMinZ input := by
  obtain ⟨objectsPerm, -, -⟩ := same
  have finite := objectsPerm.filter Vec3.allFinite
  constructor
  · -- The cells are sorted by their numbers, and no two of them have the same ones.
    have follows : ∀ cells, Follows (fun first second => (compareCells first second).isLE) toLex
        cells := fun _ first _ second _ => compareCells_isLE first second
    refine ((follows _).sort_perm (fun _ _ _ _ => toLex.injective.eq_iff.mp) ?_).symm
    exact (finite.map _).dedup
  · refine (finite.foldl_eq' (fun first inside second inside' lowest => ?_) _).symm
    obtain ⟨a, isA⟩ := Scalar.isFinite_iff.1
      (Vec3.allFinite_iff.1 (List.mem_filter.mp inside).2).2.2
    obtain ⟨b, isB⟩ := Scalar.isFinite_iff.1
      (Vec3.allFinite_iff.1 (List.mem_filter.mp inside').2).2.2
    rw [isA, isB]
    exact minOf_right_comm lowest a b

theorem Rearranged.maximumHeight_eq (same : Rearranged input other) :
    maximumHeight other cell = maximumHeight input cell := by
  unfold maximumHeight
  rw [same.cells_eq.2]
  refine (same.pointsIn.1.foldl_eq' (fun first inside second inside' height => ?_) _).symm
  -- Heights above a finite lowest one are finite.
  obtain ⟨member, finite, -⟩ := mem_pointsIn.1 inside
  have base := globalMinZ_isFinite member finite
  obtain ⟨a, isA⟩ := Scalar.isFinite_iff.1
    (Scalar.sub_isFinite.2 ⟨(Vec3.allFinite_iff.1 finite).2.2, base⟩)
  obtain ⟨b, isB⟩ := Scalar.isFinite_iff.1
    (Scalar.sub_isFinite.2 ⟨(Vec3.allFinite_iff.1 (mem_pointsIn.1 inside').2.1).2.2, base⟩)
  rw [isA, isB]
  exact maxOf_right_comm height a b

variable [EuclideanNorm]

theorem Rearranged.meanDistance_eq (same : Rearranged input other) :
    meanDistance other cell = meanDistance input cell := by
  have objects := (@Rearranged.pointsIn input other cell same).1
  have sum := objects.foldl_eq' (f := fun sum point => sum + point.head2.norm)
    (fun first _ second _ start => scalar_add_right_comm _ _ _) 0
  unfold meanDistance
  dsimp only
  rw [← sum, ← objects.isEmpty_eq, ← objects.length_eq]

theorem Rearranged.taken_perm (same : Rearranged input other) :
    (taken input cell).Perm (taken other cell) := by
  obtain ⟨objects, known, candidates, denied⟩ := @Rearranged.pointsIn _ _ cell same
  unfold taken visitCell
  rw [same.meanDistance_eq, same.maximumHeight_eq, ← objects.length_eq]
  obtain ⟨-, -, -⟩ := same
  dsimp only
  split_ifs
  · simpa [protectCell] using objects.append candidates
  · simp [denyCell]
  · simpa [keepHumanCell] using known
  · simpa [retainCell, denied] using known.filter _
  · rfl
  · simpa [learnCell, denied] using objects.filter _

theorem Rearranged.visit_counters (same : Rearranged input other) {left right : CleanMapBuildResult}
    (counters : { left with cleanPoints := [] } = { right with cleanPoints := [] }) :
    { visitCell input left cell with cleanPoints := [] } =
      { visitCell other right cell with cleanPoints := [] } := by
  obtain ⟨objects, known, candidates, denied⟩ := @Rearranged.pointsIn _ _ cell same
  obtain ⟨valid, reason, leftPoints, total⟩ := left
  obtain ⟨valid', reason', rightPoints, total'⟩ := right
  simp only [CleanMapBuildResult.mk.injEq, true_and] at counters
  obtain ⟨rfl, rfl, rfl, rfl, rfl, rfl, rfl, rfl, rfl, rfl, rfl⟩ := counters
  unfold visitCell
  rw [same.meanDistance_eq, same.maximumHeight_eq, ← objects.length_eq]
  obtain ⟨-, -, -⟩ := same
  dsimp only
  split_ifs
  · simp [protectCell, candidates.length_eq, objects.length_eq]
  · simp [denyCell, objects.length_eq]
  · simp [keepHumanCell, known.length_eq, known.isEmpty_eq]
  · have retained := known.filter fun point => !deniedInVolume input cell point
    simp [retainCell, denied, known.length_eq, retained.length_eq, retained.isEmpty_eq]
  · rfl
  · have learned := objects.filter fun point => !deniedInVolume input cell point
    simp [learnCell, denied, objects.length_eq, learned.length_eq]

theorem Rearranged.visits (same : Rearranged input other) (cells : List CleanMapCell) :
    SameWithinCells input.cellSizeM (cells.foldl (visitCell input) {})
      (cells.foldl (visitCell other) {}) := by
  refine ⟨?_, ?_, ?_⟩
  · rw [visits_cleanPoints, visits_cleanPoints]
    exact List.Perm.flatMap_left cells fun cell _ => same.taken_perm
  · -- What a visit adds lies in its cell, so that the order within does not matter.
    have inCell : ∀ cell (points : List Vec3), points.Perm (taken input cell) →
        points.map (fun point => cellFor point input.cellSizeM) =
          List.replicate points.length cell := by
      intro cell points perm
      rw [List.eq_replicate_iff]
      refine ⟨List.length_map _, fun found member => ?_⟩
      obtain ⟨point, inside, rfl⟩ := List.mem_map.mp member
      exact (taken_sound (perm.mem_iff.mp inside)).1
    rw [visits_cleanPoints, visits_cleanPoints, List.nil_append, List.nil_append, List.map_flatMap,
      List.map_flatMap]
    congr 1
    funext cell
    rw [inCell cell _ (.refl _), inCell cell _ same.taken_perm.symm, same.taken_perm.length_eq]
  · -- Each visit counts the same, from counts that are the same.
    have counts : ∀ left right : CleanMapBuildResult,
        { left with cleanPoints := [] } = { right with cleanPoints := [] } →
        { cells.foldl (visitCell input) left with cleanPoints := [] } =
          { cells.foldl (visitCell other) right with cleanPoints := [] } := by
      induction cells with
      | nil => exact fun _ _ counters => counters
      | cons cell rest ih => exact fun _ _ counters => ih _ _ (same.visit_counters counters)
    exact counts {} {} rfl

theorem Rearranged.build (same : Rearranged input other) :
    SameWithinCells input.cellSizeM (buildCleanMapFromSnapshot input)
      (buildCleanMapFromSnapshot other) := by
  obtain ⟨points, cells, counters⟩ := same.visits (objectCells input)
  have objectCellsEq := same.cells_eq
  unfold buildCleanMapFromSnapshot
  rw [objectCellsEq.1, objectCellsEq.2]
  obtain ⟨objectsPerm, -, -⟩ := same
  dsimp only at points cells counters ⊢
  rw [← objectsPerm.isEmpty_eq, ← objectsPerm.length_eq]
  split_ifs
  -- Where nothing is visited, the results are equal.
  · exact ⟨.refl _, rfl, rfl⟩
  · exact ⟨.refl _, rfl, rfl⟩
  · exact ⟨.refl _, rfl, rfl⟩
  · exact ⟨.refl _, rfl, rfl⟩
  · exact ⟨points, cells, congrArg (fun result : CleanMapBuildResult =>
      { result with valid := true, reason := "complete" }) counters⟩

end Order

/-! ### Hidden cells -/

section Hidden

variable [EuclideanNorm] {input : CleanMapBuildInput} {cell : CleanMapCell}

def builtIn (input : CleanMapBuildInput) (cell : CleanMapCell) : List Vec3 :=
  (buildCleanMapFromSnapshot input).cleanPoints.filter fun point =>
    cellFor point input.cellSizeM == cell

theorem cleanPoints_of_valid (valid : (buildCleanMapFromSnapshot input).valid = true) :
    (buildCleanMapFromSnapshot input).cleanPoints = (objectCells input).flatMap (taken input) := by
  unfold buildCleanMapFromSnapshot at valid ⊢
  split_ifs at valid ⊢ with badSize noObjects
  · -- Without objects there is no cell to be visited.
    have none : input.objectPoints = [] := List.isEmpty_iff.mp noObjects
    simp [objectCells, none]
  · dsimp only
    rw [visits_cleanPoints, List.nil_append]

theorem builtIn_hidden (valid : (buildCleanMapFromSnapshot input).valid = true)
    (hidden : hiddenByHuman input cell) :
    builtIn input cell =
      if cell ∈ objectCells input then pointsIn input input.previousCleanPoints cell else [] := by
  have distinct : (objectCells input).Nodup :=
    (List.perm_insertionSort _ _).nodup_iff.mpr (List.nodup_dedup _)
  unfold builtIn
  rw [cleanPoints_of_valid valid]
  generalize objectCells input = cells at distinct
  -- Only the visit of the cell itself adds points in it, and there is one visit at most.
  induction cells with
  | nil => rfl
  | cons head rest ih =>
    obtain ⟨fresh, distinct⟩ := List.nodup_cons.mp distinct
    rw [List.flatMap_cons, List.filter_append, ih distinct]
    by_cases here : head = cell
    · subst here
      rw [if_neg fresh, if_pos List.mem_cons_self, List.append_nil, taken_of_hidden hidden,
        List.filter_eq_self]
      intro point member
      exact beq_iff_eq.mpr (mem_pointsIn.1 member).2.2
    · have nothing : (taken input head).filter (fun point =>
          cellFor point input.cellSizeM == cell) = [] := by
        rw [List.filter_eq_nil_iff]
        intro point member inCell
        exact here ((taken_sound member).1.symm.trans (beq_iff_eq.mp inCell))
      simp [nothing, Ne.symm here]

/-- Hidden cells keep what was known of them, and the order of the points does not matter. -/
structure StructureKept (input : CleanMapBuildInput) : Prop where
  hidden : ∀ cell, hiddenByHuman input cell → input.denyRanges[cell]? = none →
    builtIn input cell = pointsIn input input.previousCleanPoints cell
  order : ∀ other, Rearranged input other →
    SameWithinCells input.cellSizeM (buildCleanMapFromSnapshot input)
      (buildCleanMapFromSnapshot other)

/-- Structure is kept exactly if objects are seen in all hidden cells in which any was known. -/
theorem structure_kept_iff (input : CleanMapBuildInput)
    (valid : (buildCleanMapFromSnapshot input).valid = true) :
    StructureKept input ↔
      ∀ cell, hiddenByHuman input cell → input.denyRanges[cell]? = none →
        pointsIn input input.previousCleanPoints cell ≠ [] →
          pointsIn input input.objectPoints cell ≠ [] := by
  -- An object is seen in a cell exactly if the cell is visited.
  have visited : ∀ cell,
      cell ∈ objectCells input ↔ pointsIn input input.objectPoints cell ≠ [] := by
    intro cell
    rw [mem_objectCells, ne_eq, List.eq_nil_iff_forall_not_mem, not_forall]
    simp only [not_not, mem_pointsIn]
  constructor
  · intro kept cell hidden open_ known
    have built := kept.hidden cell hidden open_
    rw [builtIn_hidden valid hidden] at built
    by_contra unseen
    rw [if_neg fun among => (visited cell).mp among unseen] at built
    exact known built.symm
  · intro seen
    refine ⟨fun cell hidden open_ => ?_, fun other same => same.build⟩
    rw [builtIn_hidden valid hidden]
    by_cases known : pointsIn input input.previousCleanPoints cell = []
    · rw [known, ite_self]
    · exact if_pos ((visited cell).mpr (seen cell hidden open_ known))

end Hidden

section Samples

attribute [local instance] axisNorm

def shelfBehindPerson (object : Vec3) : CleanMapBuildInput :=
  { objectPoints := [object]
    previousCleanPoints := [⟨0.05, 0.05, 0.7⟩]
    humanDenyCells := Std.TreeSet.ofList [(0, 0)] compareCells
    useHumanDeny := true }

theorem visible_shelf_kept : StructureKept (shelfBehindPerson ⟨0.05, 0.05, 0.7⟩) :=
  (structure_kept_iff (shelfBehindPerson ⟨0.05, 0.05, 0.7⟩) (by with_unfolding_all decide)).mpr
    fun _ _ _ known => known

theorem covered_shelf_lost :
    ¬∀ input : CleanMapBuildInput, (buildCleanMapFromSnapshot input).valid = true →
      StructureKept input := by
  intro kept
  have shelf := (kept (shelfBehindPerson ⟨1, 1, 0.7⟩) (by with_unfolding_all decide)).hidden (0, 0)
    ⟨by decide, by decide, rfl, by decide⟩ (by decide)
  exact absurd shelf (by with_unfolding_all decide)

end Samples

end CleanMap
end NdtSlam
