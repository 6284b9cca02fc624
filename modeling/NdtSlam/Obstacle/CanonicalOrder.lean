import Mathlib.Data.Prod.Lex
import NdtSlam.Foundation.KeyedSort
import NdtSlam.Obstacle.ConfirmedHazard

/-! The order in which the clusters of a frame are extracted has no influence on the tracker. -/

namespace NdtSlam.CargoObstacleTracker

section Keys

variable (observation : CargoObstacleObservation)

def canonicalKey : List Scalar × Bool × Nat × List Int :=
  (canonicalNumbers observation, observation.hazardGeometryValid, observation.sourceIndex,
    observation.occupiedMapCells)

def rank : Scalar → WithTop ℚ
  | .fin value => value
  | _ => ⊤

abbrev OrderedKey : Type := List (WithTop ℚ) ×ₗ Bool ×ₗ ℕ ×ₗ List ℤ

def orderedKey : OrderedKey :=
  toLex ((canonicalNumbers observation).map rank, toLex (observation.hazardGeometryValid,
    toLex (observation.sourceIndex, observation.occupiedMapCells)))

def Ranked (number : Scalar) : Prop := number.isFinite = true ∨ number = .posInf

variable {a b : Scalar} {left right : CargoObstacleObservation}
  {config : CargoObstacleTrackerConfig}

theorem lt_iff_rank (first : Ranked a) (second : Ranked b) : a < b ↔ rank a < rank b := by
  rcases first with finite | rfl
  · obtain ⟨a, rfl⟩ := Scalar.isFinite_iff.1 finite
    rcases second with finite' | rfl
    · obtain ⟨b, rfl⟩ := Scalar.isFinite_iff.1 finite'
      simp [rank]
    · -- Every finite number lies below the infinite one.
      exact ⟨fun _ => WithTop.coe_lt_top a, fun _ => rfl⟩
  · refine ⟨fun below => ?_, fun below => absurd below not_top_lt⟩
    rcases second with finite' | rfl
    · obtain ⟨b, rfl⟩ := Scalar.isFinite_iff.1 finite'
      cases below
    · cases below

theorem rank_injective (first : Ranked a) (second : Ranked b) (same : rank a = rank b) :
    a = b := by
  rcases first with finite | rfl
  · obtain ⟨a, rfl⟩ := Scalar.isFinite_iff.1 finite
    rcases second with finite' | rfl
    · obtain ⟨b, rfl⟩ := Scalar.isFinite_iff.1 finite'
      exact congrArg Scalar.fin (WithTop.coe_injective same)
    · cases same
  · rcases second with finite' | rfl
    · obtain ⟨b, rfl⟩ := Scalar.isFinite_iff.1 finite'
      cases same
    · rfl

theorem ranks_injective {lefts rights : List Scalar} (first : ∀ a ∈ lefts, Ranked a)
    (second : ∀ b ∈ rights, Ranked b) (same : lefts.map rank = rights.map rank) :
    lefts = rights := by
  induction lefts generalizing rights with
  | nil => simpa using same.symm
  | cons a lefts ih =>
    cases rights with
    | nil => cases same
    | cons b rights =>
      obtain ⟨heads, tails⟩ := List.cons.inj same
      rw [List.forall_mem_cons] at first second
      rw [rank_injective first.1 second.1 heads, ih first.2 second.2 tails]

theorem cellsLess_iff {lefts rights : List Int} :
    cellsLess lefts rights = true ↔ lefts < rights := by
  induction lefts generalizing rights with
  | nil =>
    cases rights with
    | nil => simp [cellsLess]
    | cons b rights => simp [cellsLess]
  | cons a lefts ih =>
    cases rights with
    | nil => simp [cellsLess]
    | cons b rights => simp [cellsLess, List.cons_lt_cons_iff, ih]

theorem numbersLess_iff {tail : Bool} {lefts rights : List Scalar}
    (first : ∀ a ∈ lefts, Ranked a) (second : ∀ b ∈ rights, Ranked b)
    (level : lefts.length = rights.length) :
    numbersLess tail lefts rights = true ↔
      lefts.map rank < rights.map rank ∨ lefts.map rank = rights.map rank ∧ tail = true := by
  induction lefts generalizing rights with
  | nil =>
    -- Nothing is left to compare on either side.
    cases rights with
    | nil => simp [numbersLess]
    | cons b rights => cases level
  | cons a lefts ih =>
    cases rights with
    | nil => cases level
    | cons b rights =>
      rw [List.forall_mem_cons] at first second
      have rest := ih first.2 second.2 (Nat.succ.inj level)
      have ahead := lt_iff_rank first.1 second.1
      have behind := lt_iff_rank second.1 first.1
      simp only [numbersLess, List.map_cons, List.cons_lt_cons_iff, List.cons.injEq,
        Bool.or_eq_true, Bool.and_eq_true, Bool.not_eq_true', decide_eq_true_iff,
        decide_eq_false_iff_not, ahead, behind, rest]
      -- The heads decide unless they are at the same place.
      rcases lt_trichotomy (rank a) (rank b) with below | same | above
      · simp [below]
      · simp [same]
      · simp [above, above.not_gt, above.ne']

theorem canonicalNumbers_ranked (valid : validObservation left config = true) :
    ∀ number ∈ canonicalNumbers left, Ranked number := by
  -- An unknown clearance is infinite, and every other number is finite.
  have clearance : Ranked (canonicalClearance left) := by
    unfold canonicalClearance
    split_ifs with known
    · exact .inl known
    · exact .inr rfl
  simp only [validObservation, Vec3.allFinite, Bool.and_eq_true] at valid
  simp only [canonicalNumbers, List.forall_mem_cons]
  refine ⟨.inl ?_, .inl ?_, .inl ?_, .inl ?_, .inl ?_, .inl ?_, clearance, by simp⟩
  all_goals tauto

theorem canonicalTailLess_iff : canonicalTailLess left right = true ↔
    toLex (left.hazardGeometryValid, toLex (left.sourceIndex, left.occupiedMapCells)) <
      toLex (right.hazardGeometryValid, toLex (right.sourceIndex, right.occupiedMapCells)) := by
  rw [Prod.Lex.toLex_lt_toLex, Prod.Lex.toLex_lt_toLex]
  unfold canonicalTailLess
  by_cases hazard : left.hazardGeometryValid = right.hazardGeometryValid
  · by_cases source : left.sourceIndex = right.sourceIndex
    · simp [hazard, source, cellsLess_iff]
    · simp [hazard, source]
  · -- Of two different flags the one that is set comes last.
    cases first : left.hazardGeometryValid with
    | false =>
      cases second : right.hazardGeometryValid with
      | false => exact absurd (first.trans second.symm) hazard
      | true => simp
    | true =>
      cases second : right.hazardGeometryValid with
      | false => simp
      | true => exact absurd (first.trans second.symm) hazard

theorem canonicalObservationLess_iff (first : validObservation left config = true)
    (second : validObservation right config = true) :
    canonicalObservationLess left right = true ↔ orderedKey left < orderedKey right := by
  unfold canonicalObservationLess orderedKey
  rw [numbersLess_iff (canonicalNumbers_ranked first) (canonicalNumbers_ranked second) rfl,
    canonicalTailLess_iff]
  simp only [Prod.Lex.toLex_lt_toLex]

theorem orderedKey_injective (first : validObservation left config = true)
    (second : validObservation right config = true) (same : orderedKey left = orderedKey right) :
    canonicalKey left = canonicalKey right := by
  simp only [orderedKey, EmbeddingLike.apply_eq_iff_eq, Prod.mk.injEq] at same
  obtain ⟨numbers, hazard, source, cells⟩ := same
  have numbers' := ranks_injective (canonicalNumbers_ranked first)
    (canonicalNumbers_ranked second) numbers
  rw [canonicalKey, canonicalKey, numbers', hazard, source, cells]

end Keys

section Frames

variable {config : CargoObstacleTrackerConfig} {stampSec : Scalar} {self : CargoObstacleTracker}
  {observations others : List CargoObstacleObservation} {call other : TrackerCall}

def normalizeCells (observation : CargoObstacleObservation) : CargoObstacleObservation :=
  { observation with
    occupiedMapCells := (observation.occupiedMapCells.insertionSort (· ≤ ·)).eraseReps }

def comparedObservations (config : CargoObstacleTrackerConfig)
    (observations : List CargoObstacleObservation) : List CargoObstacleObservation :=
  (observations.filter fun observation => validObservation observation config).map normalizeCells

def DistinctKeys (config : CargoObstacleTrackerConfig)
    (observations : List CargoObstacleObservation) : Prop :=
  (comparedObservations config observations).Pairwise fun left right =>
    canonicalKey left ≠ canonicalKey right

theorem compared_valid {observation : CargoObstacleObservation}
    (member : observation ∈ comparedObservations config observations) :
    validObservation observation config = true := by
  obtain ⟨original, kept, rfl⟩ := List.mem_map.mp member
  exact (List.mem_filter.mp kept).2

theorem compared_follows :
    NdtSlam.Follows (fun left right => canonicalObservationLess right left = false) orderedKey
      (comparedObservations config observations) := by
  intro left first right second
  have order := canonicalObservationLess_iff (compared_valid second) (compared_valid first)
  rw [← not_lt, ← order, Bool.not_eq_true]

theorem validObservations_perm (distinct : DistinctKeys config observations)
    (perm : observations.Perm others) :
    validObservations config observations = validObservations config others := by
  have symmetric : Std.Symm fun left right : CargoObstacleObservation =>
      canonicalKey left ≠ canonicalKey right := ⟨fun _ _ apart => apart.symm⟩
  refine compared_follows.sort_perm ?_ ((perm.filter _).map normalizeCells)
  intro left first right second same
  by_contra differ
  -- Different observations with one ordered key would have one canonical key.
  exact distinct.forall first second differ
    (orderedKey_injective (compared_valid first) (compared_valid second) same)

theorem hazardAmong_perm (perm : observations.Perm others) :
    hazardAmong config observations = hazardAmong config others :=
  perm.any_eq

/-- One call shows the observations of another one in a different order. -/
structure Reorders (config : CargoObstacleTrackerConfig) (call other : TrackerCall) : Prop where
  stamp : other.stampSec = call.stampSec
  policy : other.policy = call.policy
  perm : call.observations.Perm other.observations
  distinct : DistinctKeys config call.observations

variable [EuclideanNorm]

theorem observeAll_congr
    (same : validObservations self.config observations = validObservations self.config others) :
    self.observeAll stampSec observations = self.observeAll stampSec others := by
  unfold observeAll cycleOutcomes
  rw [same]

theorem update_reordered (reorders : Reorders self.config call other) :
    self.update other = self.update call := by
  obtain ⟨stampSec, others, policy⟩ := other
  obtain ⟨rfl, rfl, perm, distinct⟩ := reorders
  dsimp only at perm
  -- The configuration survives the begin of the cycle.
  have config : (self.beginCycle call.stampSec).config = self.config := beginCycle_frame.1
  have order := validObservations_perm distinct perm
  rw [← config] at order
  unfold update
  dsimp only
  rw [observeAll_congr order, hazardAmong_perm perm]

theorem run_config (calls : List TrackerCall) : ((machine config).run calls).config = config :=
  (run_tracked config calls).configured

/-- The order in which clusters are extracted changes neither the decisions nor the tracker. -/
theorem update_order_free (past : List TrackerCall) {calls others : List TrackerCall}
    (reordered : List.Forall₂ (Reorders config) calls others) :
    (machine config).run (others ++ past) = (machine config).run (calls ++ past) ∧
      ((machine config).trace (others ++ past)).map
          (fun event => (event.before.update event.call).2) =
        ((machine config).trace (calls ++ past)).map
          fun event => (event.before.update event.call).2 := by
  -- The states before the most recent call are the same, and so is what it does to them.
  induction reordered with
  | nil => exact ⟨rfl, rfl⟩
  | @cons call other calls others reorders _ ih =>
    obtain ⟨states, decisions⟩ := ih
    have step : ((machine config).run (others ++ past)).update other =
        ((machine config).run (calls ++ past)).update call := by
      rw [states]
      refine update_reordered ?_
      rwa [run_config]
    refine ⟨congrArg Prod.fst step, ?_⟩
    simp only [List.cons_append, Machine.trace, List.map_cons]
    rw [step, decisions]

end Frames

theorem update_order_free_swapped :
    let left := clusterAt 7 clearCode false
    let right := { clusterAt 7 clearCode false with sourceIndex := 1, centroidMap := { x := 3 } }
    let call : TrackerCall := { farFrame 1 with observations := [left, right] }
    let other : TrackerCall := { farFrame 1 with observations := [right, left] }
    (@machine axisNorm {}).run [other] = (@machine axisNorm {}).run [call] ∧
      ((@machine axisNorm {}).run [call]).tracks.map (·.currentSourceIndex) = [0, 1] := by
  intro left right call other
  have distinct : DistinctKeys {} call.observations := by
    unfold DistinctKeys
    with_unfolding_all decide
  have reorders : Reorders {} call other := ⟨rfl, rfl, .swap right left [], distinct⟩
  exact ⟨(@update_order_free {} axisNorm [] [call] [other] (.cons reorders .nil)).1,
    by with_unfolding_all decide⟩

end NdtSlam.CargoObstacleTracker
