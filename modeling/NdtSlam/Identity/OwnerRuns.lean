import NdtSlam.Identity.Epochs

/-! The owner of the carried load over whole runs. -/

namespace NdtSlam

namespace ProductionOwnerLock

def identity (owner : ProductionOwnerLock) : Nat × Nat × Scalar :=
  (owner.physicalOwnerGeneration, owner.originalHistoryId, owner.lockStampSec)

theorem generation_eq {first second : ProductionOwnerLock}
    (same : first.identity = second.identity) :
    first.physicalOwnerGeneration = second.physicalOwnerGeneration :=
  congrArg (·.1) same

variable {config : CargoPhysicalIdentityConfig} {physicalCargoEpochId : Nat}
  {histories : List History} {diagnostics : List CargoPhysicalGroupDiagnostic}
  {owner : ProductionOwnerLock} {stampSec : Scalar}

structure Continues (config : CargoPhysicalIdentityConfig) (physicalCargoEpochId : Nat)
    (histories : List History) (diagnostics : List CargoPhysicalGroupDiagnostic)
    (owner : ProductionOwnerLock) (successor : History) : Prop where
  known : successor ∈ histories
  other : successor.id ≠ owner.activeHistoryId
  sameEpoch : successor.physicalCargoEpochId = physicalCargoEpochId
  measured : ∃ diagnostic, matchedDiagnostic diagnostics successor.id = some diagnostic ∧
    finiteDescriptor diagnostic.descriptor = true ∧ owner.lastFreshDescriptor.valid = true ∧
    evaluateOwnerContinuation config owner.lastFreshDescriptor
      (owner.temporalReferenceStamp histories) diagnostic.descriptor
      diagnostic.lineageExactPathWon = .ok ()

theorem continues_iff {successor : History} :
    Continues config physicalCargoEpochId histories diagnostics owner successor ↔
      successor ∈ histories ∧ ∃ diagnostic, owner.successorDiagnostic config physicalCargoEpochId
        histories diagnostics successor = some diagnostic := by
  unfold successorDiagnostic
  constructor
  · rintro ⟨known, other, sameEpoch, diagnostic, found, finite, fresh, accepted⟩
    rw [if_neg (by simp [other, sameEpoch])]
    refine ⟨known, diagnostic, Option.filter_eq_some_iff.mpr ⟨found, ?_⟩⟩
    simp [finite, fresh, accepted, Except.toBool]
  · rintro ⟨known, diagnostic, chosen⟩
    -- A history that is passed over has no group by which it could continue the owner.
    split at chosen
    · cases chosen
    · rename_i considered
      obtain ⟨other, sameEpoch⟩ := not_or.mp considered
      obtain ⟨found, passed⟩ := Option.filter_eq_some_iff.mp chosen
      simp only [Bool.and_eq_true] at passed
      refine ⟨known, other, not_not.mp sameEpoch, diagnostic, found, passed.1.1, passed.1.2, ?_⟩
      have accepted := passed.2
      cases verdict : evaluateOwnerContinuation config owner.lastFreshDescriptor
          (owner.temporalReferenceStamp histories) diagnostic.descriptor
          diagnostic.lineageExactPathWon with
      | ok value => rfl
      | error reason => simp [verdict, Except.toBool] at accepted

inductive Followed (config : CargoPhysicalIdentityConfig) (physicalCargoEpochId : Nat)
    (histories : List History) (diagnostics : List CargoPhysicalGroupDiagnostic)
    (stampSec : Scalar) (owner : ProductionOwnerLock) : OwnerMeasurement → Prop where
  | seen {active : CargoPhysicalGroupDiagnostic}
      (found : matchedDiagnostic diagnostics owner.activeHistoryId = some active) :
      Followed config physicalCargoEpochId histories diagnostics stampSec owner
        { owner := owner.refreshed stampSec active.descriptor
          freshDescriptor := some active.descriptor }
  | lost (missing : matchedDiagnostic diagnostics owner.activeHistoryId = none)
      (none : ∀ successor,
        ¬Continues config physicalCargoEpochId histories diagnostics owner successor) :
      Followed config physicalCargoEpochId histories diagnostics stampSec owner { owner }
  | handedOver {successor : History} {descriptor : CargoPhysicalGroupDescriptor}
      (missing : matchedDiagnostic diagnostics owner.activeHistoryId = none)
      (continues : Continues config physicalCargoEpochId histories diagnostics owner successor)
      (sole : ∀ other,
        Continues config physicalCargoEpochId histories diagnostics owner other →
          other = successor) :
      Followed config physicalCargoEpochId histories diagnostics stampSec owner
        { owner := { owner.refreshed stampSec descriptor with
            activeHistoryId := successor.id
            historyHandoffCount := owner.historyHandoffCount + 1 }
          freshDescriptor := some descriptor }
  | contested (missing : matchedDiagnostic diagnostics owner.activeHistoryId = none) :
      Followed config physicalCargoEpochId histories diagnostics stampSec owner
        { owner := { owner with
            historyHandoffAmbiguousCount := owner.historyHandoffAmbiguousCount + 1 }
          handoffAmbiguous := true }

theorem mem_eligibleSuccessors {successor : History}
    (continues : Continues config physicalCargoEpochId histories diagnostics owner successor) :
    ∃ descriptor, (successor.id, descriptor) ∈
      owner.eligibleSuccessors config physicalCargoEpochId histories diagnostics := by
  obtain ⟨known, diagnostic, chosen⟩ := continues_iff.1 continues
  exact ⟨diagnostic.descriptor, List.mem_filterMap.mpr ⟨successor, known, by rw [chosen]; rfl⟩⟩

theorem eligibleSuccessors_sole {successorId : Nat} {descriptor : CargoPhysicalGroupDescriptor}
    (counted : owner.eligibleSuccessors config physicalCargoEpochId histories diagnostics =
      [(successorId, descriptor)]) :
    ∃ successor, successor.id = successorId ∧
      Continues config physicalCargoEpochId histories diagnostics owner successor ∧
      ∀ other, Continues config physicalCargoEpochId histories diagnostics owner other →
        other = successor := by
  -- The histories around the one that is counted contribute nothing.
  obtain ⟨before, successor, after, split, silentBefore, found, silentAfter⟩ :=
    List.filterMap_eq_cons_iff.mp counted
  obtain ⟨diagnostic, chosen, pair⟩ := Option.map_eq_some_iff.mp found
  obtain ⟨sameId, -⟩ := Prod.mk.inj pair
  have known : successor ∈ histories := by rw [split]; simp
  refine ⟨successor, sameId, continues_iff.2 ⟨known, diagnostic, chosen⟩, ?_⟩
  intro other continues
  obtain ⟨otherKnown, otherDiagnostic, otherChosen⟩ := continues_iff.1 continues
  rw [split] at otherKnown
  rcases List.mem_append.mp otherKnown with earlier | later
  · have silent := silentBefore other earlier
    rw [otherChosen] at silent
    cases silent
  · rcases List.mem_cons.mp later with rfl | later
    · rfl
    · have silent := List.filterMap_eq_nil_iff.mp silentAfter other later
      rw [otherChosen] at silent
      cases silent

theorem followed_spec : Followed config physicalCargoEpochId histories diagnostics stampSec owner
    (owner.followed config physicalCargoEpochId histories diagnostics stampSec) := by
  unfold followed
  cases found : matchedDiagnostic diagnostics owner.activeHistoryId with
  | some active => exact .seen found
  | none =>
    -- The number of successors decides what becomes of the owner.
    match counted : owner.eligibleSuccessors config physicalCargoEpochId histories diagnostics with
    | [] =>
      refine .lost found (fun successor continues => ?_)
      obtain ⟨descriptor, member⟩ := mem_eligibleSuccessors continues
      simp [counted] at member
    | [(successorId, descriptor)] =>
      obtain ⟨successor, rfl, continues, sole⟩ := eligibleSuccessors_sole counted
      exact .handedOver found continues sole
    | _ :: _ :: _ => exact .contested found

theorem followed_identity :
    (owner.followed config physicalCargoEpochId histories diagnostics stampSec).owner.identity =
      owner.identity := by
  have spec := @followed_spec config physicalCargoEpochId histories diagnostics owner stampSec
  generalize owner.followed config physicalCargoEpochId histories diagnostics stampSec =
    measurement at spec ⊢
  cases spec
  all_goals rfl

end ProductionOwnerLock

namespace CargoPhysicalIdentityAuthority

def clears (self : CargoPhysicalIdentityAuthority) : Call → Prop
  | .reset => True
  | .update input => self.timeRollback input = true ∨
      self.stampValid input = true ∧ (self.endsEpoch input = true ∨ self.unloads input = true)

def resets (_ : CargoPhysicalIdentityAuthority) : Call → Prop
  | .reset => True
  | .update _ => False

section Steps

variable [IdentityMath] {self : CargoPhysicalIdentityAuthority}
  {input : CargoPhysicalIdentityInput}

omit [IdentityMath] in
theorem forgets_iff_clears (accepted : self.stampValid input = true) :
    self.forgets input = true ↔ self.clears (.update input) := by
  simp [forgets, clears, accepted, or_assoc]

theorem ownerLatched_cases (pass : GroupPass) :
    (∃ owner, self.forgets input = false ∧ self.productionOwnerLock = some owner ∧
        self.ownerLatched input pass = some owner) ∨
      ((self.entered input).productionOwnerLock = none ∧
        (self.ownerLatched input pass = none ∨ ∃ historyId, self.ownerLatched input pass =
          some (.latch self.nextLockGeneration historyId input.pipelineStampSec))) := by
  -- An owner that the frame does not clear stays, and only otherwise a new one may be latched.
  cases kept : (self.entered input).productionOwnerLock with
  | some owner =>
    have latched : self.ownerLatched input pass = some owner := by
      simp only [ownerLatched, kept]
    rw [entered_productionOwnerLock] at kept
    by_cases forgotten : self.forgets input = true
    · rw [if_pos forgotten] at kept
      cases kept
    · rw [if_neg forgotten] at kept
      exact .inl ⟨owner, by simpa using forgotten, kept, latched⟩
  | none =>
    refine .inr ⟨rfl, ?_⟩
    simp only [ownerLatched, kept, entered_nextLockGeneration]
    split
    · exact .inr ⟨_, rfl⟩
    · exact .inl rfl

omit [IdentityMath] in
theorem cleared_of_entered (accepted : self.stampValid input = true)
    (cleared : (self.entered input).productionOwnerLock = none) :
    self.clears (.update input) ∨ self.productionOwnerLock = none := by
  rw [entered_productionOwnerLock] at cleared
  by_cases forgotten : self.forgets input = true
  · exact .inl ((forgets_iff_clears accepted).mp forgotten)
  · rw [if_neg forgotten] at cleared
    exact .inr cleared

inductive OwnerStep (self : CargoPhysicalIdentityAuthority) (call : Call)
    (next : CargoPhysicalIdentityAuthority) : Prop where
  | kept {owner owner' : ProductionOwnerLock} (remembers : ¬self.clears call)
      (before : self.productionOwnerLock = some owner)
      (after : next.productionOwnerLock = some owner') (same : owner'.identity = owner.identity)
      (generation : next.nextLockGeneration = self.nextLockGeneration)
  | none (cleared : self.clears call ∨ self.productionOwnerLock = none)
      (after : next.productionOwnerLock = none)
      (generation : next.nextLockGeneration = self.nextLockGeneration)
  | latched {owner' : ProductionOwnerLock}
      (cleared : self.clears call ∨ self.productionOwnerLock = none)
      (after : next.productionOwnerLock = some owner')
      (fresh : owner'.physicalOwnerGeneration = self.nextLockGeneration)
      (generation : next.nextLockGeneration = self.nextLockGeneration + 1)

theorem advanced_ownerStep (accepted : self.stampValid input = true) :
    OwnerStep self (.update input) (self.advanced input) := by
  rcases @ownerLatched_cases _ self input (self.passed input) with
    ⟨owner, remembers, before, latched⟩ | ⟨cleared, none | ⟨historyId, latched⟩⟩
  · have entered : (self.entered input).productionOwnerLock = some owner := by
      rw [entered_productionOwnerLock, remembers]
      simpa using before
    have notCleared : ¬self.clears (.update input) := by
      rw [← forgets_iff_clears accepted, remembers]
      simp
    have after : (self.advanced input).productionOwnerLock = some (owner.followed self.config
        (self.entered input).physicalCargoEpochId (self.passed input).histories
        (self.passed input).diagnostics input.pipelineStampSec).owner := by
      simp [advanced, ownerFollowed, latched]
    exact .kept notCleared before after ProductionOwnerLock.followed_identity
      (by simp [advanced, entered])
  · have after : (self.advanced input).productionOwnerLock = Option.none := by
      simp [advanced, ownerFollowed, none]
    exact .none (cleared_of_entered accepted cleared) after (by simp [advanced, none])
  · have after : (self.advanced input).productionOwnerLock =
        some ((ProductionOwnerLock.latch self.nextLockGeneration historyId
          input.pipelineStampSec).followed self.config
          (self.entered input).physicalCargoEpochId (self.passed input).histories
          (self.passed input).diagnostics input.pipelineStampSec).owner := by
      simp [advanced, ownerFollowed, latched]
    exact .latched (cleared_of_entered accepted cleared) after
      (ProductionOwnerLock.generation_eq ProductionOwnerLock.followed_identity)
      (by simp [advanced, cleared, latched])

theorem step_ownerStep {config : CargoPhysicalIdentityConfig} {call : Call}
    (noReset : ¬self.resets call) :
    OwnerStep self call ((machine config).step self call).1 := by
  cases call with
  | reset => exact absurd trivial noReset
  | update input =>
    have stepped : ((machine config).step self (.update input)).1 = (self.update input).1 := rfl
    rw [stepped]
    by_cases accepted : self.stampValid input = true
    · have advances : (self.update input).1 = self.advanced input := by simp [update, accepted]
      rw [advances]
      exact advanced_ownerStep accepted
    · have refused : (self.update input).1 = self.rolledBack input := by simp [update, accepted]
      rw [refused]
      -- A frame that is refused changes nothing, unless it goes back in time.
      unfold rolledBack
      by_cases back : self.timeRollback input = true
      · rw [if_pos back]
        exact .none (.inl (.inl back)) rfl rfl
      · rw [if_neg back]
        have notCleared : ¬self.clears (.update input) := by simp [clears, back, accepted]
        cases owned : self.productionOwnerLock with
        | none => exact .none (.inr owned) owned rfl
        | some owner => exact .kept notCleared owned owned rfl rfl

end Steps

section Runs

variable [IdentityMath] (config : CargoPhysicalIdentityConfig)

theorem owner_generation_lt (calls : List Call) :
    ∀ owner, ((machine config).run calls).productionOwnerLock = some owner →
      owner.physicalOwnerGeneration < ((machine config).run calls).nextLockGeneration := by
  -- The next generation grows with every owner that is latched.
  induction calls with
  | nil =>
    intro owner owned
    cases owned
  | cons call older ih =>
    intro owner owned
    have stepped : (machine config).run (call :: older) =
        ((machine config).step ((machine config).run older) call).1 := rfl
    rw [stepped] at owned ⊢
    by_cases reset : ((machine config).run older).resets call
    · cases call with
      | reset => cases owned
      | update input => cases reset
    · have happens : OwnerStep ((machine config).run older) call
          ((machine config).step ((machine config).run older) call).1 := step_ownerStep reset
      cases happens with
      | kept _ before after same generation =>
        obtain rfl := Option.some.inj (after.symm.trans owned)
        have earlier := ih _ before
        rw [generation, ProductionOwnerLock.generation_eq same]
        exact earlier
      | none _ after =>
        rw [after] at owned
        cases owned
      | latched _ after fresh generation =>
        obtain rfl := Option.some.inj (after.symm.trans owned)
        rw [generation, fresh]
        exact Nat.lt_succ_self _

structure OwnerSince (config : CargoPhysicalIdentityConfig) (newer older : List Call)
    (owner : ProductionOwnerLock) : Prop where
  unchanged : ¬(machine config).During clears newer older →
    ∃ owner', ((machine config).run (newer ++ older)).productionOwnerLock = some owner' ∧
      owner'.identity = owner.identity
  later : (machine config).During clears newer older →
    ∀ owner', ((machine config).run (newer ++ older)).productionOwnerLock = some owner' →
      owner.physicalOwnerGeneration < owner'.physicalOwnerGeneration
  given : owner.physicalOwnerGeneration <
    ((machine config).run (newer ++ older)).nextLockGeneration

variable {config}

theorem ownerSince_run {newer older : List Call} {owner : ProductionOwnerLock}
    (owned : ((machine config).run older).productionOwnerLock = some owner)
    (noReset : ¬(machine config).During resets newer older) :
    OwnerSince config newer older owner := by
  induction newer with
  | nil =>
    exact {
      unchanged := fun _ => ⟨owner, owned, rfl⟩
      later := fun during => absurd during (Machine.not_during_nil _)
      given := owner_generation_lt config older owner owned }
  | cons call newer ih =>
    rw [Machine.during_cons, not_or] at noReset
    obtain ⟨unchanged, later, given⟩ := ih noReset.2
    have stepped : (machine config).run (call :: newer ++ older) =
        ((machine config).step ((machine config).run (newer ++ older)) call).1 := rfl
    -- The last call keeps the owner, leaves none, or latches one with a new generation.
    have happens : OwnerStep ((machine config).run (newer ++ older)) call
        ((machine config).step ((machine config).run (newer ++ older)) call).1 :=
      step_ownerStep noReset.1
    cases happens with
    | kept remembers before after same generation =>
      refine ⟨?_, ?_, ?_⟩
      · intro quiet
        rw [Machine.during_cons, not_or] at quiet
        obtain ⟨earlier, found, sameOwner⟩ := unchanged quiet.2
        obtain rfl := Option.some.inj (found.symm.trans before)
        exact ⟨_, stepped ▸ after, same.trans sameOwner⟩
      · intro cleared owner' found
        have before' := ((Machine.during_cons _).mp cleared).resolve_left remembers
        rw [stepped, after] at found
        obtain rfl := Option.some.inj found
        rw [ProductionOwnerLock.generation_eq same]
        exact later before' _ before
      · rw [stepped, generation]
        exact given
    | none cleared after generation =>
      refine ⟨?_, ?_, ?_⟩
      · intro quiet
        rw [Machine.during_cons, not_or] at quiet
        obtain ⟨earlier, found, -⟩ := unchanged quiet.2
        rw [cleared.resolve_left quiet.1] at found
        cases found
      · intro _ owner' found
        rw [stepped, after] at found
        cases found
      · rw [stepped, generation]
        exact given
    | latched cleared after fresh generation =>
      refine ⟨?_, ?_, ?_⟩
      · intro quiet
        rw [Machine.during_cons, not_or] at quiet
        obtain ⟨earlier, found, -⟩ := unchanged quiet.2
        rw [cleared.resolve_left quiet.1] at found
        cases found
      · intro _ owner' found
        rw [stepped, after] at found
        obtain rfl := Option.some.inj found
        rw [fresh]
        exact given
      · rw [stepped, generation]
        omega

end Runs

section Handoffs

variable [IdentityMath]

def ContinuesIn (self : CargoPhysicalIdentityAuthority) (input : CargoPhysicalIdentityInput)
    (owner : ProductionOwnerLock) (successor : History) : Prop :=
  owner.Continues self.config (self.entered input).physicalCargoEpochId
    (self.passed input).histories (self.passed input).diagnostics successor

structure OwnerHandled (self : CargoPhysicalIdentityAuthority)
    (input : CargoPhysicalIdentityInput) (owner owner' : ProductionOwnerLock)
    (decision : CargoPhysicalIdentityDecision) : Prop where
  handedOver : owner'.activeHistoryId ≠ owner.activeHistoryId →
    matchedDiagnostic decision.groupDiagnostics owner.activeHistoryId = none ∧
      ∃ successor, ContinuesIn self input owner successor ∧
        (∀ other, ContinuesIn self input owner other → other = successor) ∧
        owner'.activeHistoryId = successor.id
  contested : matchedDiagnostic decision.groupDiagnostics owner.activeHistoryId = none →
    ∀ first second, first ≠ second → ContinuesIn self input owner first →
      ContinuesIn self input owner second →
        owner'.activeHistoryId = owner.activeHistoryId ∧ decision.ownerFreshDescriptor = none

variable {self : CargoPhysicalIdentityAuthority} {input : CargoPhysicalIdentityInput}

theorem advanced_handled {owner : ProductionOwnerLock} (remembers : self.forgets input = false)
    (owned : self.productionOwnerLock = some owner) :
    ∃ owner', (self.advanced input).productionOwnerLock = some owner' ∧
      OwnerHandled self input owner owner' (self.decisionOf input) := by
  have entered : (self.entered input).productionOwnerLock = some owner := by
    rw [entered_productionOwnerLock, remembers]
    simpa using owned
  have latched : self.ownerLatched input (self.passed input) = some owner := by
    simp only [ownerLatched, entered]
  have after : (self.advanced input).productionOwnerLock = some (owner.followed self.config
      (self.entered input).physicalCargoEpochId (self.passed input).histories
      (self.passed input).diagnostics input.pipelineStampSec).owner := by
    simp [advanced, ownerFollowed, latched]
  have measured : (self.decisionOf input).ownerFreshDescriptor = (owner.followed self.config
      (self.entered input).physicalCargoEpochId (self.passed input).histories
      (self.passed input).diagnostics input.pipelineStampSec).freshDescriptor := by
    simp [decisionOf, ownerFollowed, latched]
  have groups : (self.decisionOf input).groupDiagnostics = (self.passed input).diagnostics := rfl
  have spec := @ProductionOwnerLock.followed_spec self.config
    (self.entered input).physicalCargoEpochId (self.passed input).histories
    (self.passed input).diagnostics owner input.pipelineStampSec
  refine ⟨_, after, ?_⟩
  generalize owner.followed self.config (self.entered input).physicalCargoEpochId
    (self.passed input).histories (self.passed input).diagnostics input.pipelineStampSec =
      measurement at spec measured ⊢
  -- The owner is seen, lost, handed over to its sole successor, or contested.
  cases spec with
  | seen found =>
    refine ⟨fun changed => absurd rfl changed, fun missing => ?_⟩
    rw [groups, found] at missing
    cases missing
  | lost _ none =>
    exact ⟨fun changed => absurd rfl changed, fun _ first _ _ continues =>
      absurd continues (none first)⟩
  | @handedOver successor _ missing continues sole =>
    refine ⟨fun _ => ⟨missing, successor, continues, sole, rfl⟩, ?_⟩
    intro _ first second different firstContinues secondContinues
    exact absurd ((sole first firstContinues).trans (sole second secondContinues).symm) different
  | contested =>
    exact ⟨fun changed => absurd rfl changed, fun _ _ _ _ _ _ => ⟨rfl, measured⟩⟩

theorem latched_active {owner' : ProductionOwnerLock}
    (cleared : (self.entered input).productionOwnerLock = none)
    (owned : (self.advanced input).productionOwnerLock = some owner') :
    owner'.activeHistoryId = owner'.originalHistoryId := by
  rcases @ownerLatched_cases _ self input (self.passed input) with
    ⟨owner, remembers, before, -⟩ | ⟨-, none | ⟨historyId, latched⟩⟩
  · rw [entered_productionOwnerLock, remembers, before] at cleared
    cases cleared
  · simp [advanced, ownerFollowed, none] at owned
  · simp only [advanced, ownerFollowed, latched, Option.map_some, Option.some.injEq] at owned
    have spec := @ProductionOwnerLock.followed_spec self.config
      (self.entered input).physicalCargoEpochId (self.passed input).histories
      (self.passed input).diagnostics
      (.latch self.nextLockGeneration historyId input.pipelineStampSec) input.pipelineStampSec
    rw [← owned]
    generalize ProductionOwnerLock.followed _ _ _ _ _ _ = measurement at spec ⊢
    cases spec with
    | seen => rfl
    | lost => rfl
    | handedOver _ continues =>
      -- No history continues an owner that has not been measured yet.
      obtain ⟨_, _, _, fresh, _⟩ := continues.measured
      cases fresh
    | contested => rfl

end Handoffs

/-- An owner never changes until it is cleared, and a later owner has a later generation. -/
theorem production_owner_immutable [IdentityMath] (config : CargoPhysicalIdentityConfig) :
    (∀ newer older owner, ((machine config).run older).productionOwnerLock = some owner →
      ¬(machine config).During resets newer older → OwnerSince config newer older owner) ∧
    (∀ calls input owner, let self := (machine config).run calls
      self.productionOwnerLock = some owner → ¬self.clears (.update input) →
        ∃ owner', ((machine config).step self (.update input)).1.productionOwnerLock =
            some owner' ∧
          OwnerHandled self input owner owner' ((machine config).step self (.update input)).2) ∧
    ∀ calls input owner', let self := (machine config).run calls
      self.clears (.update input) ∨ self.productionOwnerLock = none →
        ((machine config).step self (.update input)).1.productionOwnerLock = some owner' →
          owner'.activeHistoryId = owner'.originalHistoryId := by
  refine ⟨fun newer older owner owned noReset => ownerSince_run owned noReset, ?_, ?_⟩
  · intro calls input owner self owned notCleared
    by_cases accepted : self.stampValid input = true
    · have stepped : (machine config).step self (.update input) =
          (self.advanced input, self.decisionOf input) := if_pos accepted
      rw [stepped]
      refine advanced_handled ?_ owned
      rw [← Bool.not_eq_true, forgets_iff_clears accepted]
      exact notCleared
    · -- A frame that is refused leaves the authority as it is, unless it goes back in time.
      have refused : ((machine config).step self (.update input)).1 = self.rolledBack input :=
        congrArg Prod.fst (if_neg accepted)
      have back : ¬self.timeRollback input = true := fun back => notCleared (.inl back)
      have same : self.rolledBack input = self := if_neg back
      refine ⟨owner, by rw [refused, same]; exact owned, fun changed => absurd rfl changed, ?_⟩
      have silent : ((machine config).step self (.update input)).2.ownerFreshDescriptor = none :=
        congrArg (fun answer : CargoPhysicalIdentityAuthority × CargoPhysicalIdentityDecision =>
          answer.2.ownerFreshDescriptor) (if_neg accepted)
      exact fun _ _ _ _ _ _ => ⟨rfl, silent⟩
  · intro calls input owner' self cleared owned
    by_cases accepted : self.stampValid input = true
    · have stepped : (machine config).step self (.update input) =
          (self.advanced input, self.decisionOf input) := if_pos accepted
      rw [stepped] at owned
      refine latched_active ?_ owned
      rw [entered_productionOwnerLock]
      rcases cleared with cleared | absent
      · rw [if_pos ((forgets_iff_clears accepted).mpr cleared)]
      · by_cases forgotten : self.forgets input = true
        · rw [if_pos forgotten]
        · rw [if_neg forgotten, absent]
    · have refused : ((machine config).step self (.update input)).1 = self.rolledBack input :=
        congrArg Prod.fst (if_neg accepted)
      rw [refused] at owned
      unfold rolledBack at owned
      by_cases back : self.timeRollback input = true
      · rw [if_pos back] at owned
        cases owned
      · rw [if_neg back] at owned
        rcases cleared with cleared | absent
        · simp [clears, back, accepted] at cleared
        · rw [absent] at owned
          cases owned

end CargoPhysicalIdentityAuthority
end NdtSlam
