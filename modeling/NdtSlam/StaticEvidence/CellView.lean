import NdtSlam.Foundation.KeyedFold
import NdtSlam.StaticEvidence.SnapshotFile

/-! The life of a single cell: what each operation of the index does to the evidence of one key. -/

namespace NdtSlam

structure CellView where
  config : StaticObstacleEvidenceConfig
  generation : Nat
  sequence : Nat
  cell : Option StaticEvidenceCell
  invalidated : Option Nat
  freeTombstone : Bool

variable (build : StaticObstacleEvidenceIndex.CleanBuild)

def StaticObstacleEvidenceIndex.CleanBuild.reportsFree (key : Int) : Bool :=
  build.observedFreeCells.contains key && build.observableCells.contains key

def StaticObstacleEvidenceIndex.CleanBuild.reportsOccupied (key : Int) : Bool :=
  match build.occupiedCells[key]? with
  | some geometry => StaticObstacleEvidenceIndex.countsOccupied build key geometry
  | none => false

namespace CellView

open StaticObstacleEvidenceIndex

def published (view : CellView) : Option StaticEvidenceCell :=
  view.cell.filter (·.cleanMapConfirmed)

def free (view : CellView) : CellView :=
  { view with cell := none, freeTombstone := view.freeTombstone || view.cell.isSome }

variable (build : CleanBuild)

def sight (key : Int) (geometry : StaticEvidenceCellGeometry) (view : CellView) : CellView :=
  { view with
    cell := some (ripen view.config view.generation
      (sighted view.config view.sequence build key geometry view.cell))
    freeTombstone := false }

def occupy (key : Int) (view : CellView) : CellView :=
  match build.occupiedCells[key]? with
  | some geometry => if countsOccupied build key geometry then view.sight build key geometry else view
  | none => view

def digest (key : Int) (view : CellView) : CellView :=
  occupy build key (if build.reportsFree key then view.free else view)

def invalidate (version : Nat) (view : CellView) : CellView :=
  { view with cell := none, invalidated := some (max (view.invalidated.getD 0) version) }

def invalidateIn (cells : CellKeySet) (version : Nat) (key : Int) (view : CellView) : CellView :=
  if cells.contains key then view.invalidate version else view

def confirm (clean : CleanMap) (key : Int) (geometry : StaticEvidenceCellGeometry)
    (view : CellView) : CellView :=
  if blocksConfirmation view.freeTombstone view.invalidated clean key then view
  else
    { view with cell := some (ripen view.config view.generation
        (confirmed view.sequence view.invalidated clean key geometry view.cell)) }

def confirmIn (clean : CleanMap) (key : Int) (view : CellView) : CellView :=
  match clean.cleanCells[key]? with
  | some geometry => view.confirm clean key geometry
  | none => view

end CellView

namespace StaticObstacleEvidenceIndex

def view (self : StaticObstacleEvidenceIndex) (key : Int) : CellView :=
  { config := self.config, generation := self.workingGeneration
    sequence := self.latestObservationSequence, cell := self.workingCells[key]?
    invalidated := self.invalidatedVersions[key]?
    freeTombstone := self.observedFreeTombstones.contains key }

variable (self : StaticObstacleEvidenceIndex)

theorem publishSnapshot_cell (stampSec : Scalar) (key : Int) :
    (self.publishSnapshot stampSec).snapshot.cells[key]? = (self.view key).published := by
  exact Std.ExtTreeMap.getElem?_filter'

@[simp] theorem publishSnapshot_view (stampSec : Scalar)
    (key : Int) : (self.publishSnapshot stampSec).view key = self.view key := rfl

variable {key : Int}

theorem foldl_set_view {State View : Type} (update : State → Int → State) (view : State → View)
    (change : View → View)
    (frame : ∀ state other, other ≠ key → view (update state other) = view state)
    (acts : ∀ state, view (update state key) = change (view state)) (cells : CellKeySet)
    (state : State) :
    view (cells.toList.foldl update state)
      = if cells.contains key then change (view state) else view state := by
  have listed : key ∈ cells.toList ↔ cells.contains key = true :=
    Std.ExtTreeSet.mem_toList.trans Std.ExtTreeSet.mem_iff_contains
  have distinct : cells.toList.Pairwise fun first second => first ≠ second := by
    refine cells.distinct_toList.imp ?_
    intro first second apart same
    exact apart (same ▸ Std.ReflCmp.compare_self)
  -- Either the key is listed once, or it is not listed at all.
  by_cases present : cells.contains key = true
  · rw [if_pos present]
    exact foldl_view_local id update view frame distinct (listed.mpr present) rfl acts state
  · rw [if_neg present]
    refine foldl_view_frame id update view frame ?_ state
    intro other member same
    exact present (listed.mp (same ▸ member))

theorem foldl_map_view {State View Value : Type} (update : State → Int × Value → State)
    (view : State → View) (change : Value → View → View)
    (frame : ∀ state item, item.1 ≠ key → view (update state item) = view state)
    (acts : ∀ state value, view (update state (key, value)) = change value (view state))
    (cells : CellMap Value) (state : State) :
    view (cells.toList.foldl update state)
      = match cells[key]? with
        | some value => change value (view state)
        | none => view state :=
  foldl_entries_view view update change frame acts cells state

theorem getElem?_insert_ne {Value : Type} (cells : CellMap Value) {written key : Int}
    (other : written ≠ key) (value : Value) : (cells.insert written value)[key]? = cells[key]? :=
  getElem?_insert_other cells other value

theorem getElem?_erase_ne {Value : Type} (cells : CellMap Value) {erased key : Int}
    (other : erased ≠ key) : (cells.erase erased)[key]? = cells[key]? := by
  rw [Std.ExtTreeMap.getElem?_erase, if_neg]
  intro same
  exact other (Std.LawfulEqCmp.eq_of_compare same)

variable (cells : CellKeySet)

theorem contains_insert_ne {written key : Int} (other : written ≠ key) :
    (cells.insert written).contains key = cells.contains key := by
  have apart : (compare written key == .eq) = false := by simpa using other
  rw [Std.ExtTreeSet.contains_insert, apart, Bool.false_or]

theorem contains_erase_ne {erased key : Int} (other : erased ≠ key) :
    (cells.erase erased).contains key = cells.contains key := by
  have apart : (compare erased key != .eq) = true := by simpa using other
  rw [Std.ExtTreeSet.contains_erase, apart, Bool.true_and]

/-! ### Invalidation -/

theorem invalidateCell_frame (version : Nat) (self : StaticObstacleEvidenceIndex) (item : Int)
    (other : item ≠ key) : (invalidateCell version self item).view key = self.view key := by
  unfold view invalidateCell
  rw [getElem?_insert_ne _ other, getElem?_erase_ne _ other]

theorem invalidateCell_own (version : Nat) (key : Int) (self : StaticObstacleEvidenceIndex) :
    (invalidateCell version self key).view key = (self.view key).invalidate version := by
  simp [view, invalidateCell, CellView.invalidate, Std.ExtTreeMap.getD_eq_getD_getElem?]

theorem invalidateAll_view (version : Nat) (key : Int) :
    (self.invalidateAll cells version).view key
      = (self.view key).invalidateIn cells version key :=
  foldl_set_view (invalidateCell version) (view · key) (CellView.invalidate version)
    (invalidateCell_frame version) (invalidateCell_own version key) cells self

/-! ### Clean builds -/

variable (build : CleanBuild)

theorem observeFreeCell_frame (progress : BuildProgress) (item : Int) (other : item ≠ key) :
    (observeFreeCell build progress item).index.view key = progress.index.view key := by
  unfold observeFreeCell
  split_ifs
  · rfl
  · rfl
  · unfold view
    rw [getElem?_erase_ne _ other, contains_insert_ne _ other]

theorem observeFreeCell_own (key : Int) (progress : BuildProgress) :
    (observeFreeCell build progress key).index.view key
      = if build.observableCells.contains key then (progress.index.view key).free
        else progress.index.view key := by
  unfold observeFreeCell
  by_cases visible : build.observableCells.contains key = true
  · rw [if_neg (by simp [visible]), if_pos visible]
    rw [Std.ExtTreeMap.contains_eq_isSome_getElem?]
    cases known : progress.index.workingCells[key]? with
    | none =>
      -- A cell that is not working has nothing to lose and leaves no tombstone.
      simp [view, CellView.free, known]
    | some cell => simp [view, CellView.free, known]
  · rw [if_pos (by simp [visible]), if_neg visible]

theorem observeOccupiedCell_frame (progress : BuildProgress)
    (item : Int × StaticEvidenceCellGeometry) (other : item.1 ≠ key) :
    (observeOccupiedCell build progress item).index.view key = progress.index.view key := by
  unfold observeOccupiedCell
  split_ifs
  · simp only [view]
    rw [getElem?_insert_ne _ other, contains_erase_ne _ other]
  · rfl
  · rfl

theorem observeOccupiedCell_own (key : Int) (progress : BuildProgress)
    (geometry : StaticEvidenceCellGeometry) :
    (observeOccupiedCell build progress (key, geometry)).index.view key
      = if countsOccupied build key geometry then
          (progress.index.view key).sight build key geometry
        else progress.index.view key := by
  unfold observeOccupiedCell
  split_ifs
  · simp [view, CellView.sight]
  · rfl
  · rfl

theorem digestBuild_view (key : Int) :
    (self.digestBuild build).index.view key
      = ((self.beginBuild build).view key).digest build key := by
  unfold digestBuild
  have freed := foldl_set_view (observeFreeCell build) (fun progress => progress.index.view key)
    (fun view => if build.observableCells.contains key then view.free else view)
    (observeFreeCell_frame build) (observeFreeCell_own build key) build.observedFreeCells
    { index := self.beginBuild build }
  have occupied := foldl_map_view (observeOccupiedCell build)
    (fun progress => progress.index.view key)
    (fun geometry view =>
      if countsOccupied build key geometry then view.sight build key geometry else view)
    (observeOccupiedCell_frame build) (observeOccupiedCell_own build key) build.occupiedCells
  -- The free phase tests the two sets of the build one after the other.
  have joined : (if build.observedFreeCells.contains key then
        if build.observableCells.contains key then ((self.beginBuild build).view key).free
        else (self.beginBuild build).view key
      else (self.beginBuild build).view key)
      = if build.reportsFree key then ((self.beginBuild build).view key).free
        else (self.beginBuild build).view key := by
    unfold CleanBuild.reportsFree
    by_cases listed : build.observedFreeCells.contains key = true
    · rw [if_pos listed, listed, Bool.true_and]
    · rw [if_neg listed, if_neg (by simp [listed])]
  rw [occupied, freed, joined]
  unfold CellView.digest CellView.occupy
  cases build.occupiedCells[key]? <;> rfl

/-! ### Clean maps -/

variable (clean : CleanMap)

theorem confirmCell_frame (progress : StaticObstacleEvidenceIndex × Nat)
    (item : Int × StaticEvidenceCellGeometry) (other : item.1 ≠ key) :
    (confirmCell clean progress item).1.view key = progress.1.view key := by
  unfold confirmCell
  simp only
  split_ifs
  · rfl
  · simp only [view]
    rw [getElem?_insert_ne _ other]

theorem confirmCell_own (key : Int) (progress : StaticObstacleEvidenceIndex × Nat)
    (geometry : StaticEvidenceCellGeometry) :
    (confirmCell clean progress (key, geometry)).1.view key
      = (progress.1.view key).confirm clean key geometry := by
  unfold confirmCell CellView.confirm
  by_cases blocked : blocksConfirmation (progress.1.observedFreeTombstones.contains key)
      progress.1.invalidatedVersions[key]? clean key = true
  · rw [if_pos blocked]
    exact (if_pos blocked).symm
  · rw [if_neg blocked]
    refine Eq.trans ?_ (if_neg blocked).symm
    simp [view]

theorem confirmCells_view (count : Nat) (key : Int) :
    (clean.cleanCells.toList.foldl (confirmCell clean) (self, count)).1.view key
      = (self.view key).confirmIn clean key := by
  rw [foldl_map_view (confirmCell clean) (fun progress => progress.1.view key)
    (CellView.confirm clean key) (confirmCell_frame clean) (confirmCell_own clean key)]
  unfold CellView.confirmIn
  cases clean.cleanCells[key]? <;> rfl

end StaticObstacleEvidenceIndex
end NdtSlam
