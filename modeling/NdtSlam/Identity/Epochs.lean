import NdtSlam.Identity.Authority

/-! What a frame leaves of the authority before its groups are looked at. -/

namespace NdtSlam.CargoPhysicalIdentityAuthority

section Stages

variable (self : CargoPhysicalIdentityAuthority) (input : CargoPhysicalIdentityInput)

def forgets : Bool := self.timeRollback input || self.endsEpoch input || self.unloads input

def ledger : CargoPhysicalIdentityConfig × Nat × Nat :=
  (self.config, self.nextHistoryId, self.nextLockGeneration)

def memory : List History × Nat × Option ProductionOwnerLock :=
  (self.histories, self.validatedHistoryId, self.productionOwnerLock)

theorem rolledBack_frame : (self.rolledBack input).ledger = self.ledger ∧
    (self.rolledBack input).memory =
      (if self.timeRollback input then ([], 0, none) else self.memory) ∧
    (self.rolledBack input).previousExistencePhase = self.previousExistencePhase := by
  unfold rolledBack
  by_cases back : self.timeRollback input = true
  · rw [if_pos back, if_pos back]
    exact ⟨rfl, rfl, rfl⟩
  · rw [if_neg back, if_neg back]
    exact ⟨rfl, rfl, rfl⟩

theorem epochEntered_frame : (self.epochEntered input).ledger = self.ledger ∧
    (self.epochEntered input).memory =
      (if self.timeRollback input || self.endsEpoch input then ([], 0, none) else self.memory) ∧
    (self.epochEntered input).previousExistencePhase =
      (!self.endsEpoch input && self.previousExistencePhase) := by
  obtain ⟨sameLedger, sameMemory, samePhase⟩ := rolledBack_frame self input
  rw [← sameLedger, ← samePhase]
  -- Only the end of an epoch goes beyond what going back in time ends.
  by_cases ends : self.endsEpoch input = true
  · simp only [epochEntered, ends, if_true]
    exact ⟨rfl, by simp [memory], by simp⟩
  · simp only [epochEntered, ends]
    exact ⟨rfl, by simpa [memory, coalesced] using sameMemory, by simp [coalesced]⟩

theorem unloaded_frame : (self.unloaded input).ledger = self.ledger ∧
    (self.unloaded input).memory =
      (if self.unloads input then ([], 0, none) else self.memory) := by
  unfold unloaded
  by_cases puts : self.unloads input = true
  · rw [if_pos puts, if_pos puts]
    exact ⟨rfl, rfl⟩
  · rw [if_neg puts, if_neg puts]
    exact ⟨rfl, rfl⟩

theorem pickedUp_frame : (self.pickedUp input).ledger = self.ledger ∧
    (self.pickedUp input).memory =
      (if self.gravityLoadEdge input = true ∧ input.hookRole = .required then
          self.histories.map historyAtLoadEdge
        else self.histories, self.validatedHistoryId, self.productionOwnerLock) := by
  unfold pickedUp
  by_cases edge : self.gravityLoadEdge input = true
  · by_cases required : input.hookRole = .required
    · rw [if_pos edge, if_pos required, if_pos ⟨edge, required⟩]
      exact ⟨rfl, rfl⟩
    · rw [if_pos edge, if_neg required, if_neg (fun both => required both.2)]
      exact ⟨rfl, rfl⟩
  · rw [if_neg edge, if_neg (fun both => edge both.1)]
    exact ⟨rfl, rfl⟩

end Stages

section Frames

variable {self : CargoPhysicalIdentityAuthority} {input : CargoPhysicalIdentityInput}

theorem entered_ledger : (self.entered input).ledger = self.ledger :=
  (pickedUp_frame _ _).1.trans ((unloaded_frame _ _).1.trans (epochEntered_frame _ _).1)

@[simp] theorem entered_config : (self.entered input).config = self.config :=
  congrArg (·.1) entered_ledger

@[simp] theorem entered_nextHistoryId : (self.entered input).nextHistoryId = self.nextHistoryId :=
  congrArg (·.2.1) entered_ledger

@[simp] theorem entered_nextLockGeneration :
    (self.entered input).nextLockGeneration = self.nextLockGeneration :=
  congrArg (·.2.2) entered_ledger

theorem unloads_epochEntered : (self.epochEntered input).unloads input =
    (!self.endsEpoch input && self.unloads input) := by
  unfold unloads
  rw [(epochEntered_frame self input).2.2]
  cases self.endsEpoch input
  all_goals simp

theorem unloaded_memory : ((self.epochEntered input).unloaded input).memory =
    if self.forgets input then ([], 0, none) else self.memory := by
  rw [(unloaded_frame _ _).2, (epochEntered_frame _ _).2.1, unloads_epochEntered]
  unfold forgets
  -- The three ways to forget are looked at one after the other.
  cases self.timeRollback input
  all_goals cases self.endsEpoch input
  all_goals cases self.unloads input
  all_goals simp

theorem entered_productionOwnerLock : (self.entered input).productionOwnerLock =
    if self.forgets input then none else self.productionOwnerLock := by
  have owner : (self.entered input).productionOwnerLock =
      ((self.epochEntered input).unloaded input).productionOwnerLock :=
    congrArg (·.2.2) (pickedUp_frame ((self.epochEntered input).unloaded input) input).2
  have remembered := congrArg (·.2.2) (@unloaded_memory self input)
  rw [owner]
  by_cases forgotten : self.forgets input = true
  · simpa [memory, forgotten] using remembered
  · simpa [memory, forgotten] using remembered

theorem entered_histories : (self.entered input).histories =
    if self.forgets input then []
    else if ((self.epochEntered input).unloaded input).gravityLoadEdge input = true ∧
        input.hookRole = .required then self.histories.map historyAtLoadEdge
    else self.histories := by
  have kept : (self.entered input).histories =
      if ((self.epochEntered input).unloaded input).gravityLoadEdge input = true ∧
          input.hookRole = .required then
        ((self.epochEntered input).unloaded input).histories.map historyAtLoadEdge
      else ((self.epochEntered input).unloaded input).histories :=
    congrArg (·.1) (pickedUp_frame ((self.epochEntered input).unloaded input) input).2
  have remembered := congrArg (·.1) (@unloaded_memory self input)
  rw [kept]
  by_cases forgotten : self.forgets input = true
  · have none : ((self.epochEntered input).unloaded input).histories = [] := by
      simpa [memory, forgotten] using remembered
    simp [forgotten, none]
  · have same : ((self.epochEntered input).unloaded input).histories = self.histories := by
      simpa [memory, forgotten] using remembered
    simp [forgotten, same]

end Frames

end NdtSlam.CargoPhysicalIdentityAuthority
