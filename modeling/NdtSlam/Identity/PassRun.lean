import NdtSlam.Identity.Epochs

/-! What the pass over the groups of a frame does, step by step. -/

namespace NdtSlam

namespace History

section Frames

variable [IdentityMath] {context : ObservationContext} {group : CargoPhysicalGroupObservation}
  {surface : AssociationOnlyReacquiredVerticalEvidence} {authorized : Bool} {history : History}

def name (history : History) : Nat × Nat := (history.id, history.physicalCargoEpochId)

omit [IdentityMath] in
theorem acquireFootprint_name : (context.acquireFootprint group history).name = history.name := by
  unfold ObservationContext.acquireFootprint
  split
  · rfl
  · rfl

theorem samplePrelift_name :
    (history.samplePrelift context group surface).1.name = history.name := by
  unfold samplePrelift
  -- The verdict on the samples decides what is kept of them, not what the load is known by.
  dsimp only
  split
  · rfl
  · rfl
  · rfl
  · rfl

theorem acquirePrelift_name :
    (history.acquirePrelift context group surface authorized).1.name = history.name := by
  unfold acquirePrelift
  dsimp only
  split
  · exact samplePrelift_name
  · split
    · rfl
    · split
      · rfl
      · rfl

omit [IdentityMath] in
theorem closeAtLoadEdge_name : (history.closeAtLoadEdge context).name = history.name := by
  unfold closeAtLoadEdge
  split
  · rfl
  · rfl

omit [IdentityMath] in
theorem noteSupported_name : (history.noteSupported group).name = history.name := by
  unfold noteSupported
  dsimp only
  split
  · rfl
  · rfl

theorem absorb_name {sighting : GroupSighting} :
    (history.absorb context sighting).history.name = history.name :=
  noteSupported_name.trans (closeAtLoadEdge_name.trans (acquirePrelift_name.trans
    acquireFootprint_name))

@[simp] theorem absorb_id {sighting : GroupSighting} :
    (history.absorb context sighting).history.id = history.id :=
  congrArg (·.1) absorb_name

end Frames

@[simp] theorem keptAlive_id {stampSec : Scalar} {history : History} :
    (history.keptAlive stampSec).id = history.id := rfl

def idsOf (histories : List History) : List Nat := histories.map (·.id)

theorem idsOf_set {histories : List History} {index : Nat} {history history' : History}
    (found : histories[index]? = some history) (same : history'.id = history.id) :
    idsOf (histories.set index history') = idsOf histories := by
  obtain ⟨known, rfl⟩ := List.getElem?_eq_some_iff.mp found
  apply List.ext_getElem
  · simp [idsOf]
  · intro position _ _
    simp only [idsOf, List.getElem_map, List.getElem_set]
    -- Only the replaced history could have another id.
    split
    · rename_i here
      subst here
      exact same
    · rfl

end History

inductive Routed (context : ObservationContext) (framed : FramedGroup)
    (histories : List History) : GroupRoute → Prop where
  | ambiguous (unclear : framed.ambiguous = true) : Routed context framed histories .ambiguous
  | skipped (clear : framed.ambiguous = false)
      (weak : finiteDescriptor framed.group.descriptor = false)
      (unloaded : context.input.gravityLoaded = false) : Routed context framed histories .skipped
  | matched {index : Nat} (clear : framed.ambiguous = false)
      (verdict : framed.association.verdict = .matched index) :
      Routed context framed histories (.matched index)
  | created (clear : framed.ambiguous = false)
      (strong : finiteDescriptor framed.group.descriptor = true)
      (unmatched : ∀ index, framed.association.verdict ≠ .matched index) :
      Routed context framed histories .created
  | unsupported (clear : framed.ambiguous = false) :
      Routed context framed histories .unsupported
  | held {index : Nat} (clear : framed.ambiguous = false)
      (loaded : context.input.gravityLoaded = true)
      (sole : recoveryCandidates context framed.group histories = [index]) :
      Routed context framed histories (.held index)
  | recoveryAmbiguous (clear : framed.ambiguous = false) :
      Routed context framed histories .recoveryAmbiguous

variable {context : ObservationContext}

theorem routeOf_spec {framed : FramedGroup} {histories : List History} :
    Routed context framed histories (routeOf context framed histories) := by
  unfold routeOf
  dsimp only
  by_cases unclear : framed.ambiguous = true
  · rw [if_pos unclear]
    exact .ambiguous unclear
  · rw [if_neg unclear]
    have clear : framed.ambiguous = false := by simpa using unclear
    by_cases hidden : (!finiteDescriptor framed.group.descriptor &&
        !context.input.gravityLoaded) = true
    · rw [if_pos hidden]
      simp only [Bool.and_eq_true, Bool.not_eq_true'] at hidden
      exact .skipped clear hidden.1 hidden.2
    · rw [if_neg hidden]
      -- A match comes first, and only a loaded hook keeps a load alive.
      split
      · rename_i index verdict
        exact .matched clear verdict
      · rename_i unmatched
        by_cases unloaded : (!context.input.gravityLoaded) = true
        · rw [if_pos unloaded]
          exact .created clear (by simpa [unloaded] using hidden) unmatched
        · rw [if_neg unloaded]
          split
          · split
            · rename_i strong
              exact .created clear strong unmatched
            · exact .unsupported clear
          · rename_i index sole
            exact .held clear (by simpa using unloaded) sole
          · exact .recoveryAmbiguous clear

theorem verdict_of_routeOf {framed : FramedGroup} {histories : List History} {index : Nat}
    (routed : routeOf context framed histories = .matched index) :
    framed.association.verdict = .matched index := by
  have reason := @routeOf_spec context framed histories
  rw [routed] at reason
  cases reason with
  | matched _ verdict => exact verdict

theorem held_lt {framed : FramedGroup} {histories : List History} {index : Nat}
    (routed : routeOf context framed histories = .held index) :
    index < histories.length := by
  have reason := @routeOf_spec context framed histories
  rw [routed] at reason
  cases reason with
  | held _ _ sole =>
    have member : index ∈ recoveryCandidates context framed.group histories :=
      sole ▸ List.mem_singleton_self index
    obtain ⟨⟨history, position⟩, listed, rfl⟩ := List.mem_map.mp member
    exact List.snd_lt_of_mem_zipIdx (List.mem_of_mem_filter listed)

namespace GroupPass

section Steps

variable {context : ObservationContext} {framed : FramedGroup} {pass : GroupPass}

@[simp] theorem unassociated_histories {association : CargoCandidateAssociationState} :
    (unassociated framed pass association).histories = pass.histories := rfl

theorem commit_frame {froze : Bool} {history : History} :
    (commit context framed pass froze history).histories = pass.histories ∧
      (commit context framed pass froze history).nextHistoryId = pass.nextHistoryId ∧
      (commit context framed pass froze history).diagnostics = pass.diagnostics ∧
      (commit context framed pass froze history).postloadHistoryId = pass.postloadHistoryId := by
  unfold commit
  split
  · split
    · exact ⟨rfl, rfl, rfl, rfl⟩
    · exact ⟨rfl, rfl, rfl, rfl⟩
  · exact ⟨rfl, rfl, rfl, rfl⟩

theorem createHistory_name : (createHistory context framed pass).1.name =
    (pass.nextHistoryId, context.physicalCargoEpochId) := by
  unfold createHistory
  -- Inheriting a reference and being blocked only concern the time before the lift.
  dsimp only
  split
  · split
    · rfl
    · rfl
  · split
    · rfl
    · rfl

variable (context framed pass) in
def placeOf : Option Nat :=
  match routeOf context framed pass.histories with
  | .matched index => some index
  | .held index => some index
  | .created => some pass.histories.length
  | _ => none

variable [IdentityMath]

inductive Stepped (context : ObservationContext) (framed : FramedGroup) (pass : GroupPass) :
    GroupPass → Prop where
  | apart (association : CargoCandidateAssociationState)
      (frame : CargoCandidateAssociationState) (anyAmbiguity : Bool)
      (old : routeOf context framed pass.histories ≠ .created)
      (unplaced : ∀ index, placeOf context framed pass = some index →
        pass.histories[index]? = none) :
      Stepped context framed pass
        (unassociated framed { pass with frameAssociation := frame, anyAmbiguity } association)
  | followed {index : Nat} {history : History}
      (routed : routeOf context framed pass.histories = .matched index)
      (found : pass.histories[index]? = some history) :
      Stepped context framed pass (follow context framed pass index history)
  | kept {index : Nat} {history : History}
      (routed : routeOf context framed pass.histories = .held index)
      (found : pass.histories[index]? = some history) :
      Stepped context framed pass (hold framed pass index history)
  | created (routed : routeOf context framed pass.histories = .created) :
      Stepped context framed pass (create context framed pass)

theorem step_spec : Stepped context framed pass (step context framed pass) := by
  unfold step
  -- Each route has a step of its own, and the groups that belong to no load share one.
  cases routed : routeOf context framed pass.histories with
  | ambiguous =>
    exact .apart .ambiguous .ambiguous true (by simp [routed]) (by simp [placeOf, routed])
  | skipped =>
    exact .apart .newHistory pass.frameAssociation pass.anyAmbiguity (by simp [routed])
      (by simp [placeOf, routed])
  | matched index =>
    dsimp only
    split
    · rename_i missing
      exact .apart .newHistory pass.frameAssociation pass.anyAmbiguity (by simp [routed])
        (by simpa [placeOf, routed] using missing)
    · rename_i history found
      exact .followed routed found
  | recoveryAmbiguous =>
    exact .apart .ambiguous pass.frameAssociation true (by simp [routed])
      (by simp [placeOf, routed])
  | held index =>
    dsimp only
    split
    · rename_i missing
      exact .apart .newHistory pass.frameAssociation pass.anyAmbiguity (by simp [routed])
        (by simpa [placeOf, routed] using missing)
    · rename_i history found
      exact .kept routed found
  | unsupported =>
    exact .apart .newHistory pass.frameAssociation pass.anyAmbiguity (by simp [routed])
      (by simp [placeOf, routed])
  | created => exact .created routed

@[simp] theorem follow_histories {index : Nat} {history : History} :
    (follow context framed pass index history).histories =
      pass.histories.set index (history.absorb context framed.sighting).history :=
  commit_frame.1

@[simp] theorem follow_nextHistoryId {index : Nat} {history : History} :
    (follow context framed pass index history).nextHistoryId = pass.nextHistoryId :=
  commit_frame.2.1

@[simp] theorem create_histories : (create context framed pass).histories = pass.histories ++
    [((createHistory context framed pass).1.absorb context framed.sighting).history] :=
  commit_frame.1

@[simp] theorem create_nextHistoryId :
    (create context framed pass).nextHistoryId = pass.nextHistoryId + 1 :=
  commit_frame.2.1

omit [IdentityMath] in
@[simp] theorem hold_histories {index : Nat} {history : History} :
    (hold framed pass index history).histories =
      pass.histories.set index (history.keptAlive framed.group.descriptor.stampSec) := rfl

omit [IdentityMath] in
@[simp] theorem createHistory_id : (createHistory context framed pass).1.id = pass.nextHistoryId :=
  congrArg (·.1) createHistory_name

theorem step_ids : History.idsOf (step context framed pass).histories =
      History.idsOf pass.histories ++
        (if routeOf context framed pass.histories = .created then [pass.nextHistoryId] else []) ∧
    (step context framed pass).nextHistoryId = pass.nextHistoryId +
      (if routeOf context framed pass.histories = .created then 1 else 0) := by
  have spec := @step_spec context framed pass _
  generalize step context framed pass = next at spec ⊢
  cases spec with
  | apart association frame anyAmbiguity old unplaced =>
    rw [if_neg old, if_neg old]
    exact ⟨(List.append_nil _).symm, rfl⟩
  | followed routed found =>
    rw [follow_histories, History.idsOf_set found History.absorb_id, routed]
    exact ⟨(List.append_nil _).symm, follow_nextHistoryId⟩
  | kept routed found =>
    rw [hold_histories, History.idsOf_set found History.keptAlive_id, routed]
    exact ⟨(List.append_nil _).symm, rfl⟩
  | created routed =>
    rw [if_pos routed, if_pos routed]
    exact ⟨by simp [History.idsOf], create_nextHistoryId⟩

theorem step_diagnostics : ∃ diagnostic : CargoPhysicalGroupDiagnostic,
    (step context framed pass).diagnostics = pass.diagnostics ++ [diagnostic] ∧
      diagnostic.matchedHistoryId = (placeOf context framed pass).bind fun index =>
        (History.idsOf (step context framed pass).histories)[index]? := by
  have spec := @step_spec context framed pass _
  generalize step context framed pass = next at spec ⊢
  cases spec with
  | apart association frame anyAmbiguity old unplaced =>
    refine ⟨_, rfl, ?_⟩
    -- The group has no place among the histories.
    cases placed : placeOf context framed pass with
    | none => rfl
    | some index =>
      have missing := unplaced index placed
      simp [diagnostic, History.idsOf, missing]
  | @followed index history routed found =>
    refine ⟨_, congrArg (· ++ [_]) commit_frame.2.2.1, ?_⟩
    have known := (List.getElem?_eq_some_iff.mp found).1
    rw [follow_histories, History.idsOf_set found History.absorb_id]
    simp [placeOf, routed, History.idsOf, found]
  | @kept index history routed found =>
    refine ⟨_, rfl, ?_⟩
    rw [hold_histories, History.idsOf_set found History.keptAlive_id]
    simp [placeOf, routed, History.idsOf, found]
  | created routed =>
    refine ⟨_, congrArg (· ++ [_]) commit_frame.2.2.1, ?_⟩
    simp [placeOf, routed, History.idsOf]

end Steps

section Runs

variable [IdentityMath] {context : ObservationContext} {pass : GroupPass}
  {groups : List FramedGroup}

theorem through_invariant (Holds : GroupPass → Prop) (start : Holds pass)
    (preserved : ∀ framed ∈ groups, ∀ before, Holds before →
      Holds (step context framed before)) : Holds (pass.through context groups) := by
  -- The pass goes through the groups one after the other.
  unfold through
  induction groups generalizing pass with
  | nil => exact start
  | cons framed rest ih =>
    refine ih (preserved framed List.mem_cons_self pass start) ?_
    exact fun other member => preserved other (List.mem_cons_of_mem _ member)

def upTo (context : ObservationContext) (pass : GroupPass) (groups : List FramedGroup)
    (count : Nat) : GroupPass :=
  pass.through context (groups.take count)

@[simp] theorem upTo_zero : upTo context pass groups 0 = pass := rfl

@[simp] theorem upTo_length : upTo context pass groups groups.length =
    pass.through context groups := by
  simp [upTo]

theorem upTo_succ {count : Nat} {framed : FramedGroup} (found : groups[count]? = some framed) :
    upTo context pass groups (count + 1) =
      step context framed (upTo context pass groups count) := by
  simp [upTo, through, List.take_add_one, found, List.foldl_append]

end Runs

end GroupPass

end NdtSlam
