import Mathlib.Algebra.Order.BigOperators.Group.List
import NdtSlam.Foundation.Planar

/-! The pose graph of the rail, which is optimized in its translations alone. -/

namespace NdtSlam

open Matrix

class SquareRoot (K : Type) where
  squareRoot : K → K

export SquareRoot (squareRoot)

noncomputable instance : SquareRoot ℝ := ⟨Real.sqrt⟩

structure RailTranslationEdge (K : Type) where
  fromId : Nat
  toId : Nat
  measuredTranslation : Planar K
  information : Matrix (Fin 2) (Fin 2) K
  robustLoop : Bool := false

structure RailTranslationNode (K : Type) where
  xy : Planar K
  fixed : Bool

structure RailTranslationPoseGraph (K : Type) where
  nodes : List (Nat × RailTranslationNode K) := []
  edges : List (RailTranslationEdge K) := []

structure RailTranslationGraphResult (K : Type) where
  valid : Bool := false
  optimizedXy : Nat → Planar K
  irlsIterations : Nat := 0
  finalCost : K
  reason : String := "not_evaluated"

abbrev Coordinate := Nat × Fin 2

abbrev Triplet (K : Type) := Coordinate × Coordinate × K

abbrev SparseSolver (K : Type) :=
  List Coordinate → List (Triplet K) → (Coordinate → K) → Except String (Coordinate → K)

namespace RailTranslationPoseGraph

variable {K : Type} [Field K] [LinearOrder K]

def finiteInformation (information : Matrix (Fin 2) (Fin 2) K) : Bool :=
  let away := information 0 1 - information 1 0
  away * away + away * away ≤ 1.0e-20 * (information 0 0 * information 0 0 +
      information 0 1 * information 0 1 + information 1 0 * information 1 0 +
      information 1 1 * information 1 1) &&
    0 < information 0 0 && 0 < information 1 1

inductive Call (K : Type) where
  | addNode (id : Nat) (xy : Planar K) (fixed : Bool)
  | addEdge (edge : RailTranslationEdge K)

def apply (graph : RailTranslationPoseGraph K) : Call K → RailTranslationPoseGraph K
  | .addNode id xy fixed =>
    if graph.nodes.any (·.1 = id) then graph
    else { graph with nodes := graph.nodes ++ [(id, ⟨xy, fixed⟩)] }
  | .addEdge edge =>
    if edge.fromId = edge.toId || !graph.nodes.any (·.1 = edge.fromId) ||
        !graph.nodes.any (·.1 = edge.toId) || !finiteInformation edge.information then graph
    else { graph with edges := graph.edges ++ [edge] }

def build (calls : List (Call K)) : RailTranslationPoseGraph K := calls.foldl apply {}

def residual (position : Nat → Planar K) (edge : RailTranslationEdge K) : Planar K :=
  position edge.toId - position edge.fromId - edge.measuredTranslation

section Optimization

variable [Hypot K] [SquareRoot K] (graph : RailTranslationPoseGraph K) (delta : K)
  (edge : RailTranslationEdge K)

def whitenedNorm (away : Planar K) : K :=
  squareRoot (max 0 (away ⬝ᵥ edge.information *ᵥ away))

def huberWeight (residualNorm : K) : K :=
  if residualNorm ≤ delta then 1 else delta / max residualNorm 1.0e-12

def weight (away : Planar K) : K :=
  if edge.robustLoop then huberWeight delta (whitenedNorm edge away) else 1

def edgeCost (away : Planar K) : K :=
  if edge.robustLoop && delta < whitenedNorm edge away then
    delta * (whitenedNorm edge away + whitenedNorm edge away - delta)
  else whitenedNorm edge away * whitenedNorm edge away

def cost (position : Nat → Planar K) : K :=
  (graph.edges.map fun edge => edgeCost delta edge (residual position edge)).sum

def isVariable (id : Nat) : Bool := graph.nodes.any fun node => node.1 = id && !node.2.fixed

def variableIds : List Nat := (graph.nodes.filter fun node => !node.2.fixed).map (·.1)

def unknowns : List Coordinate := graph.variableIds.flatMap fun id => [(id, 0), (id, 1)]

def position (id : Nat) : Planar K := ((graph.nodes.find? (·.1 = id)).map (·.2.xy)).getD 0

def addBlock (row col : Nat) (block : Matrix (Fin 2) (Fin 2) K) : List (Triplet K) :=
  [((row, 0), (col, 0), block 0 0), ((row, 0), (col, 1), block 0 1),
   ((row, 1), (col, 0), block 1 0), ((row, 1), (col, 1), block 1 1)]

def edgeTriplets (information : Matrix (Fin 2) (Fin 2) K) : List (Triplet K) :=
  let movesFrom := graph.isVariable edge.fromId
  let movesTo := graph.isVariable edge.toId
  (if movesFrom then addBlock edge.fromId edge.fromId information else []) ++
    ((if movesTo then addBlock edge.toId edge.toId information else []) ++
    if movesFrom && movesTo then
      addBlock edge.fromId edge.toId (-information) ++
        addBlock edge.toId edge.fromId (-information)
    else [])

def edgeGradient (information : Matrix (Fin 2) (Fin 2) K) (away : Planar K) (id : Nat) :
    Planar K :=
  (if id = edge.fromId then -(information *ᵥ away) else 0) +
    if id = edge.toId then information *ᵥ away else 0

def weighted (position : Nat → Planar K) : Matrix (Fin 2) (Fin 2) K :=
  weight delta edge (residual position edge) • edge.information

def hessian (position : Nat → Planar K) : List (Triplet K) :=
  graph.edges.flatMap fun edge => graph.edgeTriplets edge (weighted delta edge position)

def gradient (position : Nat → Planar K) (id : Nat) : Planar K :=
  (graph.edges.map fun edge =>
    edgeGradient edge (weighted delta edge position) (residual position edge) id).sum

def moved (step : Coordinate → K) (id : Nat) : Planar K :=
  if graph.isVariable id then fun axis => step (id, axis) else 0

def drift (step : Coordinate → K) : Planar K :=
  graph.moved step edge.toId - graph.moved step edge.fromId

def iterate (solver : SparseSolver K) : Nat → RailTranslationGraphResult K →
    RailTranslationGraphResult K
  | 0, result => { result with valid := true, reason := "rail_translation_graph_optimized" }
  | left + 1, result =>
    match solver graph.unknowns (graph.hessian delta result.optimizedXy)
        fun row => -graph.gradient delta result.optimizedXy row.1 row.2 with
    | .error reason => { result with reason }
    | .ok step =>
      let next : RailTranslationGraphResult K := { result with
        optimizedXy := fun id => result.optimizedXy id + graph.moved step id
        irlsIterations := result.irlsIterations + 1
        finalCost := graph.cost delta result.optimizedXy }
      let maximumStep :=
        (graph.variableIds.map fun id => planarNorm (graph.moved step id)).foldl max 0
      if maximumStep ≤ 1.0e-6 then
        { next with valid := true, reason := "rail_translation_graph_optimized" }
      else iterate solver left next

def optimize (solver : SparseSolver K) (maximumIrlsIterations : Int) :
    RailTranslationGraphResult K :=
  let result : RailTranslationGraphResult K :=
    { optimizedXy := graph.position, finalCost := 0 }
  if graph.nodes.length < 2 || graph.edges.isEmpty || maximumIrlsIterations ≤ 0 || delta ≤ 0 then
    { result with reason := "invalid_rail_translation_graph" }
  else if (graph.nodes.filter (·.2.fixed)).length != 1 then
    { result with reason := "rail_translation_graph_requires_one_fixed_origin" }
  else if graph.unknowns.isEmpty then
    { result with reason := "rail_translation_graph_no_variables" }
  else iterate graph delta solver maximumIrlsIterations.toNat result

end Optimization

def applied (triplets : List (Triplet K)) (step : Coordinate → K) (row : Coordinate) : K :=
  (triplets.map fun entry => if entry.1 = row then entry.2.2 * step entry.2.1 else 0).sum

def ExactSolver (solver : SparseSolver K) : Prop :=
  ∀ rows triplets rhs step, solver rows triplets rhs = .ok step →
    ∀ row ∈ rows, applied triplets step row = rhs row

def Semidefinite (information : Matrix (Fin 2) (Fin 2) K) : Prop :=
  information 0 1 = information 1 0 ∧ ∀ away, 0 ≤ away ⬝ᵥ information *ᵥ away

structure NeverWorse [SquareRoot K] (graph : RailTranslationPoseGraph K) (delta : K)
    (optimized : Nat → Planar K) : Prop where
  cost : graph.cost delta optimized ≤ graph.cost delta graph.position
  fixed : ∀ id, graph.isVariable id = false → optimized id = graph.position id
  stationary : (∀ edge ∈ graph.edges, edge.robustLoop = false) →
    ∀ id, graph.isVariable id = true → graph.gradient delta optimized id = 0

/-- No exact optimization of a graph with such information makes it worse. -/
def NeverWorseOver [Hypot K] [SquareRoot K] (informations : Set (Matrix (Fin 2) (Fin 2) K))
    (delta : K) : Prop :=
  ∀ (solver : SparseSolver K) (calls : List (Call K)) (maximum : Int), ExactSolver solver →
    (∀ edge ∈ (build calls).edges, edge.information ∈ informations) →
    (optimize (build calls) delta solver maximum).valid = true →
    NeverWorse (build calls) delta (optimize (build calls) delta solver maximum).optimizedXy

/-! ### The linear system -/

section System

variable {graph : RailTranslationPoseGraph ℝ} {edge : RailTranslationEdge ℝ}
  {information : Matrix (Fin 2) (Fin 2) ℝ} {step : Coordinate → ℝ}

theorem applied_append (first second : List (Triplet ℝ)) (row : Coordinate) :
    applied (first ++ second) step row = applied first step row + applied second step row := by
  simp [applied]

theorem applied_addBlock (row col id : Nat) (axis : Fin 2) :
    applied (addBlock row col information) step (id, axis) =
      if id = row then (information *ᵥ fun axis => step (col, axis)) axis else 0 := by
  unfold applied addBlock
  by_cases same : id = row
  · subst same
    fin_cases axis <;> simp [mulVec, dotProduct, Fin.sum_univ_two]
  · have other : ∀ place : Fin 2, (row, place) ≠ (id, axis) := fun place equal =>
      same (Prod.ext_iff.mp equal).1.symm
    simp [same, other]

theorem applied_edgeTriplets {id : Nat} (free : graph.isVariable id = true) (axis : Fin 2) :
    applied (graph.edgeTriplets edge information) step (id, axis) =
      edgeGradient edge information (graph.drift edge step) id axis := by
  unfold edgeTriplets edgeGradient drift moved
  dsimp only
  rw [applied_append, applied_append]
  cases movesFrom : graph.isVariable edge.fromId with
  | false =>
    have other : id ≠ edge.fromId := fun equal => by
      rw [equal, movesFrom] at free
      cases free
    cases movesTo : graph.isVariable edge.toId with
    | false =>
      have other' : id ≠ edge.toId := fun equal => by
        rw [equal, movesTo] at free
        cases free
      simp [applied, other, other']
    | true =>
      simp only [Bool.false_eq_true, if_false, if_true, Bool.false_and, applied_addBlock, other,
        sub_zero]
      by_cases same : id = edge.toId <;> simp [applied, same]
  | true =>
    cases movesTo : graph.isVariable edge.toId with
    | false =>
      have other : id ≠ edge.toId := fun equal => by
        rw [equal, movesTo] at free
        cases free
      simp only [Bool.false_eq_true, if_false, if_true, Bool.and_false, applied_addBlock, other,
        zero_sub, mulVec_neg, neg_neg]
      by_cases same : id = edge.fromId <;> simp [applied, same]
    | true =>
      simp only [if_true, Bool.and_self, applied_append, applied_addBlock, mulVec_sub, neg_mulVec]
      split_ifs <;> simp only [Pi.add_apply, Pi.sub_apply, Pi.neg_apply, Pi.zero_apply] <;> ring

theorem applied_flatMap (edges : List (RailTranslationEdge ℝ))
    (entries : RailTranslationEdge ℝ → List (Triplet ℝ)) (row : Coordinate) :
    applied (edges.flatMap entries) step row =
      (edges.map fun edge => applied (entries edge) step row).sum := by
  induction edges with
  | nil => rfl
  | cons edge rest ih => rw [List.flatMap_cons, applied_append, ih, List.map_cons, List.sum_cons]

theorem mem_variableIds {id : Nat} :
    id ∈ graph.variableIds ↔ graph.isVariable id = true := by
  simp [variableIds, isVariable]

theorem total_edgeGradient (away : Planar ℝ) :
    ∑ id ∈ graph.variableIds.toFinset,
        graph.moved step id ⬝ᵥ edgeGradient edge information away id =
      graph.drift edge step ⬝ᵥ information *ᵥ away := by
  have resting : ∀ id, id ∉ graph.variableIds.toFinset → graph.moved step id = 0 :=
    fun id absent => by
      rw [List.mem_toFinset, mem_variableIds] at absent
      unfold moved
      rw [if_neg absent]
  have one : ∀ (place : Nat) (value : Planar ℝ), ∑ id ∈ graph.variableIds.toFinset,
      graph.moved step id ⬝ᵥ (if id = place then value else 0) =
        graph.moved step place ⬝ᵥ value := fun place value => by
    by_cases present : place ∈ graph.variableIds.toFinset
    · rw [Finset.sum_eq_single_of_mem place present fun id _ other => by simp [other]]
      simp
    · rw [resting place present, zero_dotProduct]
      refine Finset.sum_eq_zero fun id inside => ?_
      have other : id ≠ place := fun same => present (same ▸ inside)
      simp [other]
  unfold edgeGradient drift
  simp only [dotProduct_add, Finset.sum_add_distrib, one, sub_dotProduct, dotProduct_neg]
  ring

theorem total_sum (edges : List (RailTranslationEdge ℝ))
    (part : RailTranslationEdge ℝ → Nat → Planar ℝ) :
    ∑ id ∈ graph.variableIds.toFinset,
        graph.moved step id ⬝ᵥ (edges.map fun edge => part edge id).sum =
      (edges.map fun edge => ∑ id ∈ graph.variableIds.toFinset,
        graph.moved step id ⬝ᵥ part edge id).sum := by
  induction edges with
  | nil => simp
  | cons edge rest ih =>
    simp only [List.map_cons, List.sum_cons, dotProduct_add, Finset.sum_add_distrib, ih]

/-! ### One step -/

variable {delta : ℝ} {position : Nat → Planar ℝ} {away change : Planar ℝ}

theorem residual_moved : residual (fun id => position id + graph.moved step id) edge =
    residual position edge + graph.drift edge step := by
  unfold residual drift
  funext axis
  simp only [Pi.sub_apply, Pi.add_apply]
  ring

theorem form_add (symmetric : information 0 1 = information 1 0) :
    (away + change) ⬝ᵥ information *ᵥ (away + change) = away ⬝ᵥ information *ᵥ away +
      (2 * (change ⬝ᵥ information *ᵥ away) + change ⬝ᵥ information *ᵥ change) := by
  simp only [mulVec, dotProduct, Fin.sum_univ_two, Pi.add_apply, symmetric]
  ring

theorem edgeCost_add_le (sound : Semidefinite edge.information) (resolved : 1.0e-12 ≤ delta) :
    edgeCost delta edge (away + change) ≤ edgeCost delta edge away +
      (2 * (change ⬝ᵥ (weight delta edge away • edge.information) *ᵥ away) +
        change ⬝ᵥ (weight delta edge away • edge.information) *ᵥ change) := by
  have norm : ∀ y : Planar ℝ, 0 ≤ whitenedNorm edge y ∧
      whitenedNorm edge y * whitenedNorm edge y = y ⬝ᵥ edge.information *ᵥ y := fun y => by
    unfold whitenedNorm
    rw [max_eq_right (sound.2 y)]
    exact ⟨Real.sqrt_nonneg _, Real.mul_self_sqrt (sound.2 y)⟩
  have expanded := @form_add edge.information away change sound.1
  obtain ⟨low, square⟩ := norm away
  obtain ⟨low', square'⟩ := norm (away + change)
  rw [← square, ← square'] at expanded
  simp only [smul_mulVec, dotProduct_smul, smul_eq_mul]
  generalize change ⬝ᵥ edge.information *ᵥ away = slope at *
  generalize change ⬝ᵥ edge.information *ᵥ change = bend at *
  have positive : 0 < delta := lt_of_lt_of_le (by norm_num) resolved
  unfold edgeCost weight huberWeight
  generalize whitenedNorm edge away = before at *
  generalize whitenedNorm edge (away + change) = after at *
  cases edge.robustLoop with
  | false =>
    simp only [Bool.false_and, Bool.false_eq_true, if_false]
    linarith
  | true =>
    simp only [Bool.true_and, decide_eq_true_eq, if_true]
    rcases le_or_gt before delta with close | far
    · rw [if_pos close, if_neg (not_lt.mpr close)]
      have outlier := sq_nonneg (after - delta)
      split_ifs <;> linarith
    · -- The share of the weight is that of the threshold in the distance before.
      rw [if_neg (not_le.mpr far), if_pos far, max_eq_left (resolved.trans far.le)]
      have share : delta / before * before = delta := div_mul_cancel₀ delta (by linarith)
      have below : delta / before < 1 := (div_lt_one (by linarith)).mpr far
      have above : 0 < delta / before := div_pos positive (by linarith)
      generalize delta / before = factor at *
      subst share
      have tangent : factor * (2 * slope) + factor * bend =
          factor * (after * after - before * before) := by
        rw [expanded]
        ring
      split_ifs with outlier
      · have gap := mul_nonneg above.le (sq_nonneg (after - before))
        nlinarith
      · have inside : after * after ≤ factor * before * (factor * before) :=
          mul_self_le_mul_self low' (not_lt.mp outlier)
        nlinarith [mul_nonneg (sub_nonneg.mpr below.le) (sub_nonneg.mpr inside),
          mul_nonneg (mul_nonneg above.le (sub_nonneg.mpr below.le))
            (mul_nonneg (sub_nonneg.mpr below.le) (mul_self_nonneg before))]

theorem weight_nonneg (resolved : 1.0e-12 ≤ delta) : 0 ≤ weight delta edge away := by
  have positive : 0 < delta := lt_of_lt_of_le (by norm_num) resolved
  unfold weight huberWeight
  split_ifs
  · exact zero_le_one
  · exact div_nonneg positive.le (le_max_of_le_right (by norm_num))
  · exact zero_le_one

theorem edgeGradient_add {id : Nat} : edgeGradient edge information (away + change) id =
    edgeGradient edge information away id + edgeGradient edge information change id := by
  unfold edgeGradient
  rw [mulVec_add]
  split_ifs
  · abel
  · abel
  · abel
  · abel

theorem step_improves {solver : SparseSolver ℝ} (exact_ : ExactSolver solver)
    (sound : ∀ edge ∈ graph.edges, Semidefinite edge.information) (resolved : 1.0e-12 ≤ delta)
    (solved : solver graph.unknowns (graph.hessian delta position)
      (fun row => -graph.gradient delta position row.1 row.2) = .ok step) :
    graph.cost delta (fun id => position id + graph.moved step id) ≤ graph.cost delta position ∧
      ((∀ edge ∈ graph.edges, edge.robustLoop = false) → ∀ id, graph.isVariable id = true →
        graph.gradient delta (fun id => position id + graph.moved step id) id = 0) := by
  have turned : ∀ id, graph.isVariable id = true → (graph.edges.map fun edge =>
      edgeGradient edge (weighted delta edge position) (graph.drift edge step) id).sum =
        -graph.gradient delta position id := fun id free => by
    funext axis
    have row : (id, axis) ∈ graph.unknowns := List.mem_flatMap.mpr
      ⟨id, mem_variableIds.2 free, by fin_cases axis <;> simp⟩
    have holds := exact_ _ _ _ _ solved (id, axis) row
    unfold hessian at holds
    rw [applied_flatMap] at holds
    simp only [applied_edgeTriplets free] at holds
    rw [Pi.neg_apply, ← holds, Pi.list_sum_apply, List.map_map]
    rfl
  constructor
  · have along := @total_sum graph step graph.edges fun edge =>
      edgeGradient edge (weighted delta edge position) (residual position edge)
    have bent := @total_sum graph step graph.edges fun edge =>
      edgeGradient edge (weighted delta edge position) (graph.drift edge step)
    simp only [total_edgeGradient] at along bent
    have opposite : ∑ id ∈ graph.variableIds.toFinset, graph.moved step id ⬝ᵥ
        (graph.edges.map fun edge =>
          edgeGradient edge (weighted delta edge position) (graph.drift edge step) id).sum =
        -∑ id ∈ graph.variableIds.toFinset,
          graph.moved step id ⬝ᵥ graph.gradient delta position id := by
      rw [← Finset.sum_neg_distrib]
      refine Finset.sum_congr rfl fun id inside => ?_
      rw [turned id (mem_variableIds.1 (List.mem_toFinset.mp inside)), dotProduct_neg]
    have nonnegative : 0 ≤ (graph.edges.map fun edge =>
        graph.drift edge step ⬝ᵥ weighted delta edge position *ᵥ graph.drift edge step).sum := by
      refine List.sum_nonneg fun value member => ?_
      obtain ⟨edge, inside, rfl⟩ := List.mem_map.mp member
      unfold weighted
      rw [smul_mulVec, dotProduct_smul, smul_eq_mul]
      exact mul_nonneg (weight_nonneg resolved) ((sound edge inside).2 _)
    calc graph.cost delta (fun id => position id + graph.moved step id)
        ≤ (graph.edges.map fun edge => edgeCost delta edge (residual position edge) +
          (2 * (graph.drift edge step ⬝ᵥ
              weighted delta edge position *ᵥ residual position edge) +
            graph.drift edge step ⬝ᵥ
              weighted delta edge position *ᵥ graph.drift edge step)).sum := by
          refine List.sum_le_sum fun edge inside => ?_
          rw [residual_moved]
          exact edgeCost_add_le (sound edge inside) resolved
      _ ≤ graph.cost delta position := by
          unfold gradient at opposite
          rw [List.sum_map_add, List.sum_map_add, List.sum_map_mul_left]
          unfold cost
          linarith
  · intro plain id free
    have same : ∀ edge ∈ graph.edges, ∀ other,
        weighted delta edge other = weighted delta edge position := fun edge inside other => by
      unfold weighted weight
      rw [plain edge inside]
      rfl
    have sum : graph.gradient delta (fun id => position id + graph.moved step id) id =
        graph.gradient delta position id + (graph.edges.map fun edge =>
          edgeGradient edge (weighted delta edge position) (graph.drift edge step) id).sum := by
      unfold gradient
      rw [← List.sum_map_add]
      refine congrArg List.sum (List.map_congr_left fun edge inside => ?_)
      rw [same edge inside, residual_moved]
      exact edgeGradient_add
    rw [sum, turned id free, add_neg_cancel]

theorem advance_improves {solver : SparseSolver ℝ} (exact_ : ExactSolver solver)
    (sound : ∀ edge ∈ graph.edges, Semidefinite edge.information) (resolved : 1.0e-12 ≤ delta)
    (low : graph.cost delta position ≤ graph.cost delta graph.position)
    (fixed : ∀ id, graph.isVariable id = false → position id = graph.position id)
    (solved : solver graph.unknowns (graph.hessian delta position)
      (fun row => -graph.gradient delta position row.1 row.2) = .ok step) :
    NeverWorse graph delta fun id => position id + graph.moved step id := by
  obtain ⟨lower, stationary⟩ := step_improves exact_ sound resolved solved
  refine ⟨lower.trans low, fun id rests => ?_, stationary⟩
  unfold moved
  rw [if_neg (by simp [rests]), add_zero]
  exact fixed id rests

theorem iterate_improves {solver : SparseSolver ℝ} (exact_ : ExactSolver solver)
    (sound : ∀ edge ∈ graph.edges, Semidefinite edge.information) (resolved : 1.0e-12 ≤ delta)
    (left : Nat) {result : RailTranslationGraphResult ℝ} (open_ : result.valid = false)
    (low : graph.cost delta result.optimizedXy ≤ graph.cost delta graph.position)
    (fixed : ∀ id, graph.isVariable id = false → result.optimizedXy id = graph.position id)
    (started : left = 0 → NeverWorse graph delta result.optimizedXy)
    (valid : (graph.iterate delta solver left result).valid = true) :
    NeverWorse graph delta (graph.iterate delta solver left result).optimizedXy := by
  induction left generalizing result with
  | zero => exact started rfl
  | succ left ih =>
    rw [iterate] at valid ⊢
    cases returned : solver graph.unknowns (graph.hessian delta result.optimizedXy) _ with
    | error reason =>
      rw [returned] at valid
      exact absurd (valid.symm.trans open_) (by decide)
    | ok step =>
      have good := advance_improves exact_ sound resolved low fixed returned
      rw [returned] at valid
      dsimp only at valid ⊢
      split_ifs at valid ⊢
      · exact good
      · exact ih open_ good.cost good.fixed (fun _ => good) valid

end System

theorem optimize_improves {solver : SparseSolver ℝ} (exact_ : ExactSolver solver)
    (calls : List (Call ℝ)) (maximum : Int) {delta : ℝ} (resolved : 1.0e-12 ≤ delta)
    (sound : ∀ edge ∈ (build calls).edges, Semidefinite edge.information)
    (valid : (optimize (build calls) delta solver maximum).valid = true) :
    NeverWorse (build calls) delta (optimize (build calls) delta solver maximum).optimizedXy := by
  unfold optimize at valid ⊢
  dsimp only at valid ⊢
  split_ifs at valid ⊢ with unusable several none
  simp only [Bool.or_eq_true, decide_eq_true_eq, not_or, not_le] at unusable
  have several : maximum.toNat ≠ 0 := by
    have := unusable.1.2
    omega
  exact iterate_improves exact_ sound resolved _ rfl le_rfl (fun _ _ => rfl)
    (fun none => absurd none several) valid

theorem build_accepted (calls : List (Call ℝ)) :
    ∀ edge ∈ (build calls).edges, finiteInformation edge.information = true := by
  unfold build
  induction calls using List.reverseRecOn with
  | nil => simp
  | append_singleton calls call ih =>
    rw [List.foldl_append, List.foldl_cons, List.foldl_nil]
    generalize calls.foldl apply _ = graph at ih ⊢
    cases call with
    | addNode id xy fixed =>
      rw [apply]
      split_ifs <;> exact ih
    | addEdge edge =>
      rw [apply]
      split_ifs with refused
      · exact ih
      · intro edge member
        rcases List.mem_append.mp member with old | new
        · exact ih edge old
        · rw [List.mem_singleton.mp new]
          simp only [Bool.or_eq_true, not_or, Bool.not_eq_true', Bool.not_eq_false] at refused
          exact refused.2

/-! ### Two measurements of one node -/

section TwoMeasurements

variable (away away' : Planar ℝ) (information information' : Matrix (Fin 2) (Fin 2) ℝ)
  (robust robust' : Bool)

noncomputable def twoMeasurements : RailTranslationPoseGraph ℝ :=
  build [.addNode 0 0 true, .addNode 1 0 false,
    .addEdge ⟨0, 1, -away, information, robust⟩, .addEdge ⟨0, 1, -away', information', robust'⟩]

open Classical in
noncomputable def guess (candidate : Coordinate → ℝ) : SparseSolver ℝ :=
  fun rows triplets rhs =>
    if ∀ row ∈ rows, applied triplets candidate row = rhs row then .ok candidate
    else .error "rail_translation_graph_factorization_failed"

theorem guess_exact (candidate : Coordinate → ℝ) : ExactSolver (guess candidate) := by
  intro rows triplets rhs step returned
  unfold guess at returned
  split_ifs at returned with solves
  obtain rfl := Except.ok.inj returned
  exact solves

variable {away away' information information' robust robust'} {delta : ℝ}
  (accepted : finiteInformation information = true)
  (accepted' : finiteInformation information' = true)

include accepted accepted' in
theorem twoMeasurements_eq : twoMeasurements away away' information information' robust robust' =
    { nodes := [(0, ⟨0, true⟩), (1, ⟨0, false⟩)]
      edges := [⟨0, 1, -away, information, robust⟩, ⟨0, 1, -away', information', robust'⟩] } := by
  simp [twoMeasurements, build, apply, accepted, accepted']

include accepted accepted' in
theorem twoMeasurements_optimized (positive : 0 < delta) {change : Planar ℝ}
    (balance : weight delta ⟨0, 1, -away, information, robust⟩ away •
        information *ᵥ (away + change) +
      weight delta ⟨0, 1, -away', information', robust'⟩ away' •
        information' *ᵥ (away' + change) = 0) :
    let graph := twoMeasurements away away' information information' robust robust'
    let result := optimize graph delta (guess fun row => change row.2) 1
    result.valid = true ∧ result.optimizedXy 0 = 0 ∧ result.optimizedXy 1 = change := by
  have shape := @twoMeasurements_eq away away' information information' robust robust'
    accepted accepted'
  intro graph
  have equal : graph = _ := shape
  have free : graph.isVariable 1 = true := by simp [equal, isVariable]
  have solves : ∀ row ∈ graph.unknowns,
      applied (graph.hessian delta graph.position) (fun row => change row.2) row =
        -graph.gradient delta graph.position row.1 row.2 := by
    intro row member
    obtain ⟨id, axis⟩ := row
    have place : id = 1 := by
      have either : (id, axis) = (1, 0) ∨ (id, axis) = (1, 1) := by
        simpa [equal, unknowns, variableIds] using member
      rcases either with first | second
      · exact (Prod.ext_iff.mp first).1
      · exact (Prod.ext_iff.mp second).1
    subst place
    have row := congrFun balance axis
    unfold hessian gradient
    rw [applied_flatMap]
    simp only [applied_edgeTriplets free]
    rw [equal]
    simp only [mulVec_add, smul_add, Pi.add_apply, Pi.smul_apply, Pi.zero_apply,
      smul_eq_mul] at row
    simp only [edgeGradient, weighted, residual, position, drift, moved, isVariable, List.any_cons,
      Bool.not_true, Bool.and_false, Bool.not_false, Bool.and_true, List.any_nil, Bool.or_false,
      Bool.false_or, decide_eq_true_eq, smul_mulVec, Pi.add_apply, List.map_cons, one_ne_zero,
      if_true, if_false, Pi.zero_apply, zero_ne_one, decide_false, Bool.false_eq_true,
      not_false_eq_true, List.find?_cons_of_neg, decide_true, List.find?_cons_of_pos,
      Option.map_some, Option.getD_some, sub_self, sub_neg_eq_add, zero_add, sub_zero,
      Pi.smul_apply, smul_eq_mul, List.map_nil, List.sum_cons, List.sum_nil, add_zero, neg_add_rev]
    linarith
  unfold optimize
  rw [if_neg (by simp [equal, positive]), if_neg (by simp [equal]),
    if_neg (by simp [equal, unknowns, variableIds])]
  rw [show Int.toNat 1 = 0 + 1 from rfl, iterate]
  unfold guess
  rw [if_pos solves]
  dsimp only
  split_ifs
  · simp [equal, position, moved, isVariable]
  · simp [iterate, equal, position, moved, isVariable]

include accepted accepted' in
theorem twoMeasurements_cost {place : Nat → Planar ℝ} (origin : place 0 = 0) :
    (twoMeasurements away away' information information' robust robust').cost delta place =
      edgeCost delta ⟨0, 1, -away, information, robust⟩ (away + place 1) +
        edgeCost delta ⟨0, 1, -away', information', robust'⟩ (away' + place 1) := by
  rw [twoMeasurements_eq accepted accepted']
  simp [cost, residual, origin, add_comm]

include accepted accepted' in
theorem twoMeasurements_position (id : Nat) :
    (twoMeasurements away away' information information' robust robust').position id = 0 := by
  rw [twoMeasurements_eq accepted accepted']
  unfold position
  simp only [List.find?_cons]
  split
  · rfl
  · split <;> rfl

include accepted accepted' in
theorem NeverWorseOver.balanced {informations : Set (Matrix (Fin 2) (Fin 2) ℝ)}
    (promised : NeverWorseOver informations delta) (positive : 0 < delta)
    (known : information ∈ informations) (known' : information' ∈ informations)
    {change : Planar ℝ}
    (balance : weight delta ⟨0, 1, -away, information, robust⟩ away •
        information *ᵥ (away + change) +
      weight delta ⟨0, 1, -away', information', robust'⟩ away' •
        information' *ᵥ (away' + change) = 0) :
    edgeCost delta ⟨0, 1, -away, information, robust⟩ (away + change) +
        edgeCost delta ⟨0, 1, -away', information', robust'⟩ (away' + change) ≤
      edgeCost delta ⟨0, 1, -away, information, robust⟩ away +
        edgeCost delta ⟨0, 1, -away', information', robust'⟩ away' := by
  obtain ⟨valid, origin, moved⟩ :=
    twoMeasurements_optimized accepted accepted' positive balance
  have members : ∀ edge ∈ (twoMeasurements away away' information information' robust
      robust').edges, edge.information ∈ informations := by
    rw [twoMeasurements_eq accepted accepted']
    simp [known, known']
  have better : cost (twoMeasurements away away' information information' robust robust') _ _ ≤
      _ := (promised _ _ 1 (guess_exact _) members valid).cost
  have start := @twoMeasurements_position away away' information information' robust robust'
    accepted accepted'
  have before := @twoMeasurements_cost away away' information information' robust robust' delta
    accepted accepted' _ (start 0)
  have after := @twoMeasurements_cost away away' information information' robust robust' delta
    accepted accepted' _ origin
  rw [start 1, add_zero, add_zero] at before
  rw [moved] at after
  exact after ▸ before ▸ better

end TwoMeasurements

/-! ### What the promise asks for -/

section Promise

variable {informations : Set (Matrix (Fin 2) (Fin 2) ℝ)} {delta : ℝ}
  {information : Matrix (Fin 2) (Fin 2) ℝ}

theorem form_eq (away : Planar ℝ) : away ⬝ᵥ information *ᵥ away =
    information 0 0 * away 0 ^ 2 + (information 0 1 + information 1 0) * (away 0 * away 1) +
      information 1 1 * away 1 ^ 2 := by
  simp only [mulVec, dotProduct, Fin.sum_univ_two]
  ring

theorem one_accepted : finiteInformation (1 : Matrix (Fin 2) (Fin 2) ℝ) = true := by
  simp only [finiteInformation, one_apply_eq, Bool.and_eq_true, decide_eq_true_eq]
  norm_num

theorem diagonal_pos (accepted : finiteInformation information = true) :
    0 < information 0 0 ∧ 0 < information 1 1 := by
  simp only [finiteInformation, Bool.and_eq_true, decide_eq_true_eq] at accepted
  exact ⟨accepted.1.2, accepted.2⟩

theorem edgeCost_odometry {measured away : Planar ℝ} :
    edgeCost delta ⟨0, 1, measured, information, false⟩ away =
      max 0 (away ⬝ᵥ information *ᵥ away) :=
  Real.mul_self_sqrt (le_max_left 0 _)

theorem one_form_nonneg (away : Planar ℝ) :
    0 ≤ away ⬝ᵥ (1 : Matrix (Fin 2) (Fin 2) ℝ) *ᵥ away := by
  rw [one_mulVec, dotProduct, Fin.sum_univ_two]
  exact add_nonneg (mul_self_nonneg _) (mul_self_nonneg _)

theorem form_nonneg_of_determinant (first : 0 < information 0 0)
    (determinant : (information 0 1 + information 1 0) ^ 2 ≤
      4 * (information 0 0 * information 1 1)) (away : Planar ℝ) :
    0 ≤ away ⬝ᵥ information *ᵥ away := by
  rw [form_eq]
  have scaled : 0 ≤ 4 * information 0 0 * (information 0 0 * away 0 ^ 2 +
      (information 0 1 + information 1 0) * (away 0 * away 1) + information 1 1 * away 1 ^ 2) := by
    calc 0 ≤ (2 * information 0 0 * away 0 + (information 0 1 + information 1 0) * away 1) ^ 2 +
          (4 * (information 0 0 * information 1 1) -
            (information 0 1 + information 1 0) ^ 2) * away 1 ^ 2 := by
          have := mul_nonneg (sub_nonneg.mpr determinant) (sq_nonneg (away 1))
          positivity
      _ = _ := by ring
  exact nonneg_of_mul_nonneg_right scaled (by linarith)

theorem NeverWorseOver.determinant (promised : NeverWorseOver informations delta)
    (positive : 0 < delta) (known : information ∈ informations)
    (accepted : finiteInformation information = true) :
    (information 0 1 + information 1 0) ^ 2 ≤ 4 * (information 0 0 * information 1 1) := by
  by_contra saddle
  rw [not_le] at saddle
  have first := (diagonal_pos accepted).1
  -- The falling direction is conjugate to the axis along which the measurements differ.
  have worse := @NeverWorseOver.balanced
    ![-(information 0 1 + information 1 0) + 1, 2 * information 0 0]
    ![-(information 0 1 + information 1 0) - 1, 2 * information 0 0]
    information information false false delta accepted accepted informations promised positive
    known known ![information 0 1 + information 1 0, -(2 * information 0 0)] (by
      ext axis
      fin_cases axis <;>
        simp [weight, mulVec, dotProduct, Fin.sum_univ_two] <;> ring)
  simp only [edgeCost_odometry, form_eq, Pi.add_apply, cons_val_zero, cons_val_one,
    cons_val_fin_one] at worse
  have below : information 0 0 * (4 * (information 0 0 * information 1 1) -
      (information 0 1 + information 1 0) ^ 2) + information 0 0 < information 0 0 := by
    linarith [mul_pos first (sub_pos.mpr saddle)]
  generalize information 0 1 + information 1 0 = mixed at *
  ring_nf at worse below
  rw [max_eq_right first.le] at worse
  rcases max_cases 0 (information 0 0 - information 0 0 * mixed ^ 2 +
      information 0 0 ^ 2 * information 1 1 * 4) with ⟨value, _⟩ | ⟨value, _⟩
  · rw [value] at worse
    linarith
  · rw [value] at worse
    linarith

theorem NeverWorseOver.symmetric (promised : NeverWorseOver informations delta)
    (positive : 0 < delta) (identity : 1 ∈ informations) (known : information ∈ informations)
    (accepted : finiteInformation information = true) : information 0 1 = information 1 0 := by
  by_contra skew
  have first := (diagonal_pos accepted).1
  have nonneg := form_nonneg_of_determinant first (promised.determinant positive known accepted)
  have worse := @NeverWorseOver.balanced
    ![2 * information 1 0, -2 * (information 0 0 + 1)]
    ![(information 0 1 + information 1 0) * (information 0 0 + 1) -
        2 * information 0 0 * information 1 0,
      2 * information 1 1 * (information 0 0 + 1) -
        (information 0 1 + information 1 0) * information 1 0]
    information 1 false false delta accepted one_accepted informations promised positive
    known identity ![information 0 1 - information 1 0, 0] (by
      ext axis
      fin_cases axis <;>
        simp [weight, mulVec, dotProduct, Fin.sum_univ_two] <;> ring)
  simp only [edgeCost_odometry, max_eq_right (nonneg _), max_eq_right (one_form_nonneg _)] at worse
  simp only [form_eq, Pi.add_apply, cons_val_zero, cons_val_one, cons_val_fin_one,
    one_apply_eq, one_apply_ne zero_ne_one, one_apply_ne one_ne_zero] at worse
  have gap : 0 < (information 0 1 - information 1 0) ^ 2 * (information 0 0 + 1) :=
    mul_pos (sq_pos_of_ne_zero (sub_ne_zero.mpr skew)) (by linarith)
  nlinarith

theorem whitenedNorm_first {measured : Planar ℝ} {robust : Bool} (x : ℝ) :
    whitenedNorm ⟨0, 1, measured, 1, robust⟩ ![x, 0] = |x| := by
  unfold whitenedNorm
  rw [one_mulVec]
  simp [squareRoot, Real.sqrt_mul_self_eq_abs, mul_self_nonneg]

theorem NeverWorseOver.resolved (promised : NeverWorseOver informations delta)
    (positive : 0 < delta) (identity : 1 ∈ informations) : 1.0e-12 ≤ delta := by
  by_contra small
  rw [not_le] at small
  generalize guard : (1.0e-12 : ℝ) = threshold at small
  obtain ⟨distance, over_, under⟩ := exists_between small
  have share : delta / threshold * distance < delta := by
    rw [div_mul_eq_mul_div, div_lt_iff₀ (positive.trans small)]
    exact mul_lt_mul_of_pos_left under positive
  have pull : 0 < delta / threshold := div_pos positive (positive.trans small)
  have shape : weight delta ⟨0, 1, -![distance, 0], 1, true⟩ ![distance, 0] =
      delta / threshold := by
    unfold weight huberWeight
    rw [whitenedNorm_first, abs_of_pos (positive.trans over_), if_pos rfl,
      if_neg (not_le.mpr over_), guard, max_eq_right under.le]
  generalize delta / threshold = factor at *
  have forward : 0 < (delta - factor * distance) / (factor + 1) :=
    div_pos (sub_pos.mpr share) (by linarith)
  have balance : factor * (distance + (delta - factor * distance) / (factor + 1)) +
      (-delta + (delta - factor * distance) / (factor + 1)) = 0 := by
    field_simp
    ring
  generalize (delta - factor * distance) / (factor + 1) = change at *
  have worse := @NeverWorseOver.balanced ![distance, 0] ![-delta, 0] 1 1 true false delta
    one_accepted one_accepted informations promised positive identity identity ![change, 0] (by
      rw [shape]
      ext axis
      fin_cases axis
      · simpa [weight] using balance
      · simp [weight])
  have sum : (![distance, 0] : Planar ℝ) + ![change, 0] = ![distance + change, 0] := by
    simp
  have sum' : (![-delta, 0] : Planar ℝ) + ![change, 0] = ![-delta + change, 0] := by
    simp
  rw [sum, sum'] at worse
  unfold edgeCost at worse
  simp only [whitenedNorm_first, Bool.true_and, Bool.false_and, Bool.false_eq_true, if_false,
    decide_eq_true_eq, abs_mul_abs_self] at worse
  rw [abs_of_pos (positive.trans over_), abs_of_pos (by linarith : 0 < distance + change),
    if_pos (by linarith), if_pos over_] at worse
  nlinarith [mul_pos forward forward]

/-- The graphs of some information are never made worse just when all of it is sound. -/
theorem never_worse_iff (positive : 0 < delta) (identity : 1 ∈ informations) :
    NeverWorseOver informations delta ↔ 1.0e-12 ≤ delta ∧
      ∀ information ∈ informations, finiteInformation information = true →
        Semidefinite information := by
  constructor
  · intro promised
    refine ⟨promised.resolved positive identity, fun information known accepted => ?_⟩
    exact ⟨promised.symmetric positive identity known accepted,
      form_nonneg_of_determinant (diagonal_pos accepted).1
        (promised.determinant positive known accepted)⟩
  · rintro ⟨resolved, sound⟩ solver calls maximum exact_ known valid
    refine optimize_improves exact_ calls maximum resolved (fun edge member => ?_) valid
    exact sound _ (known edge member) (build_accepted calls edge member)

end Promise

theorem identity_never_worse :
    let graph := twoMeasurements ![-3, 1] ![-1, 1] 1 1 false false
    let result := optimize graph 1 (guess fun row => ![2, -1] row.2) 1
    result.valid = true ∧ NeverWorse graph 1 result.optimizedXy := by
  have valid := (@twoMeasurements_optimized ![-3, 1] ![-1, 1] 1 1 false false 1 one_accepted
    one_accepted one_pos ![2, -1] (by
      ext axis
      fin_cases axis <;> norm_num [weight])).1
  have sound : Semidefinite (1 : Matrix (Fin 2) (Fin 2) ℝ) := ⟨by simp, one_form_nonneg⟩
  refine ⟨valid, (never_worse_iff one_pos (Set.mem_singleton 1)).mpr
    ⟨by norm_num, fun information known _ => ?_⟩ _ _ 1 (guess_exact _) ?_ valid⟩
  · rw [Set.mem_singleton_iff.mp known]
    exact sound
  · change ∀ edge ∈ (twoMeasurements ![-3, 1] ![-1, 1] 1 1 false false).edges, _
    rw [twoMeasurements_eq one_accepted one_accepted]
    simp

theorem saddle_worsens :
    let graph := twoMeasurements ![-3, 1] ![-1, 1] !![1, 2; 2, 1] !![1, 2; 2, 1] false false
    let solver := guess fun row => ![2, -1] row.2
    let result := optimize graph 1 solver 1
    ExactSolver solver ∧ result.valid = true ∧
      graph.cost 1 graph.position = 0 ∧ graph.cost 1 result.optimizedXy = 2 := by
  have accepted : finiteInformation !![(1 : ℝ), 2; 2, 1] = true := by
    simp only [finiteInformation, of_apply, cons_val', cons_val_zero, cons_val_one,
      cons_val_fin_one, Bool.and_eq_true, decide_eq_true_eq]
    norm_num
  obtain ⟨valid, origin, moved⟩ := @twoMeasurements_optimized ![-3, 1] ![-1, 1] !![1, 2; 2, 1]
    !![1, 2; 2, 1] false false 1 accepted accepted one_pos ![2, -1] (by
      ext axis
      fin_cases axis <;> norm_num [weight, mulVec, dotProduct, Fin.sum_univ_two])
  have place : ∀ id, (twoMeasurements ![-3, 1] ![-1, 1] !![1, 2; 2, 1] !![1, 2; 2, 1] false
      false).position id = 0 := twoMeasurements_position accepted accepted
  refine ⟨guess_exact _, valid, ?_, ?_⟩
  · rw [twoMeasurements_cost accepted accepted (place 0), place 1,
      edgeCost_odometry, edgeCost_odometry, form_eq, form_eq]
    simp only [of_apply, cons_val', cons_val_zero, cons_val_one, cons_val_fin_one, Pi.add_apply,
      Pi.zero_apply]
    norm_num
  · rw [twoMeasurements_cost accepted accepted origin, moved,
      edgeCost_odometry, edgeCost_odometry, form_eq, form_eq]
    simp only [of_apply, cons_val', cons_val_zero, cons_val_one, cons_val_fin_one, Pi.add_apply]
    norm_num

end RailTranslationPoseGraph

end NdtSlam
