import NdtSlam.Identity.FormalActivation

/-! Which references are settled during a pass, and which load inherits a handoff. -/

namespace NdtSlam

namespace History

section Settling

inductive Settling (before : History) : History → Bool → Prop where
  | kept {after : History}
      (frozen : after.prelift.preliftReferenceFrozen = before.prelift.preliftReferenceFrozen)
      (baseline : after.baseline = before.baseline) : Settling before after false
  | settled {after : History} {level : FrozenLevel}
      (unsettled : before.prelift.preliftReferenceFrozen = false)
      (frozen : after.prelift.preliftReferenceFrozen = true)
      (baseline : after.baseline = baselineOf level.reference level.uncertainty level.lastStamp) :
      Settling before after true

structure SameBaseline (before after : History) : Prop where
  frozen : after.prelift.preliftReferenceFrozen = before.prelift.preliftReferenceFrozen
  baseline : after.baseline = before.baseline

variable {context : ObservationContext} {group : CargoPhysicalGroupObservation}
  {surface : AssociationOnlyReacquiredVerticalEvidence} {authorized : Bool}
  {before middle after : History} {froze : Bool}

theorem Settling.behind (settling : Settling middle after froze)
    (same : SameBaseline before middle) : Settling before after froze := by
  cases settling with
  | kept frozen baseline => exact .kept (frozen.trans same.frozen) (baseline.trans same.baseline)
  | settled unsettled frozen baseline =>
    exact .settled (same.frozen.symm.trans unsettled) frozen baseline

theorem Settling.ahead (settling : Settling before middle froze)
    (same : SameBaseline middle after) : Settling before after froze := by
  cases settling with
  | kept frozen baseline => exact .kept (same.frozen.trans frozen) (same.baseline.trans baseline)
  | settled unsettled frozen baseline =>
    exact .settled unsettled (same.frozen.trans frozen) (same.baseline.trans baseline)

theorem acquireFootprint_same : SameBaseline before (context.acquireFootprint group before) := by
  unfold ObservationContext.acquireFootprint
  split
  · exact ⟨rfl, rfl⟩
  · exact ⟨rfl, rfl⟩

theorem closeAtLoadEdge_same : SameBaseline before (before.closeAtLoadEdge context) := by
  unfold closeAtLoadEdge
  split
  · exact ⟨rfl, rfl⟩
  · exact ⟨rfl, rfl⟩

theorem noteSupported_same : SameBaseline before (before.noteSupported group) := by
  unfold noteSupported
  dsimp only
  split
  · exact ⟨rfl, rfl⟩
  · exact ⟨rfl, rfl⟩

variable [IdentityMath]

theorem samplePrelift_settling (unsettled : before.prelift.preliftReferenceFrozen = false) :
    Settling before (before.samplePrelift context group surface).1
      (before.samplePrelift context group surface).2 := by
  unfold samplePrelift
  dsimp only
  -- Only enough samples that agree settle the reference.
  split
  · exact .kept rfl rfl
  · exact .settled unsettled rfl rfl
  · exact .kept rfl rfl
  · exact .kept rfl rfl

theorem acquirePrelift_settling :
    Settling before (before.acquirePrelift context group surface authorized).1
      (before.acquirePrelift context group surface authorized).2 := by
  unfold acquirePrelift
  dsimp only
  split
  · rename_i sampled
    simp only [Bool.and_eq_true, Bool.not_eq_true'] at sampled
    exact samplePrelift_settling sampled.1.1.1.1
  · split
    · exact .kept rfl rfl
    · split
      · exact .kept rfl rfl
      · exact .kept rfl rfl

theorem absorb_settling {sighting : GroupSighting} :
    Settling before (before.absorb context sighting).history
      (before.absorb context sighting).froze := by
  -- The load is followed to its surface, sampled, and then followed to its lift.
  have seen : SameBaseline before (context.acquireFootprint sighting.group
      { before with track := before.track.observed context.config sighting }) := by
    have same := @acquireFootprint_same context sighting.group
      { before with track := before.track.observed context.config sighting }
    exact ⟨same.frozen, same.baseline⟩
  have acquired := (@acquirePrelift_settling context sighting.group
    (context.currentSurfaceVertical sighting (context.acquireFootprint sighting.group
      { before with track := before.track.observed context.config sighting }))
    (context.surfaceEvidenceAuthorized sighting (context.acquireFootprint sighting.group
        { before with track := before.track.observed context.config sighting })
      (context.currentSurfaceVertical sighting (context.acquireFootprint sighting.group
        { before with track := before.track.observed context.config sighting })))
    (context.acquireFootprint sighting.group
      { before with track := before.track.observed context.config sighting }) _).behind seen
  have noted := (acquired.ahead (@closeAtLoadEdge_same context _)).ahead
    (@noteSupported_same sighting.group _)
  exact noted.ahead ⟨rfl, rfl⟩

end Settling

end History

namespace History

def SettledId (id : Nat) (histories : List History) : Prop :=
  ∀ history ∈ histories, history.id = id → history.prelift.preliftReferenceFrozen = true

theorem settledId_map {id : Nat} {histories : List History} {change : History → History}
    (sameId : ∀ history, (change history).id = history.id)
    (settles : ∀ history, history.prelift.preliftReferenceFrozen = true →
      (change history).prelift.preliftReferenceFrozen = true)
    (settled : SettledId id histories) : SettledId id (histories.map change) := by
  intro history member named
  obtain ⟨before, known, rfl⟩ := List.mem_map.mp member
  exact settles before (settled before known ((sameId before).symm.trans named))

theorem settledId_set {id index : Nat} {histories : List History} {before after : History}
    (found : histories[index]? = some before) (sameId : after.id = before.id)
    (settles : before.prelift.preliftReferenceFrozen = true →
      after.prelift.preliftReferenceFrozen = true)
    (settled : SettledId id histories) : SettledId id (histories.set index after) := by
  intro history member named
  rcases List.mem_or_eq_of_mem_set member with old | rfl
  · exact settled history old named
  · -- The history that is replaced had the id before.
    exact settles (settled before (List.mem_of_getElem? found) (sameId.symm.trans named))

end History

namespace GroupPass

section Settled

variable [IdentityMath] {context : ObservationContext} {framed : FramedGroup} {pass : GroupPass}
  {groups : List FramedGroup}

def KnownSettled (id : Nat) (pass : GroupPass) : Prop :=
  id < pass.nextHistoryId ∧ History.SettledId id pass.histories

variable {history : History}

theorem absorb_frozen {sighting : GroupSighting}
    (frozen : history.prelift.preliftReferenceFrozen = true) :
    (history.absorb context sighting).history.prelift.preliftReferenceFrozen = true := by
  have settling := @History.absorb_settling context history _ sighting
  generalize (history.absorb context sighting).history = after at settling ⊢
  generalize (history.absorb context sighting).froze = froze at settling
  cases settling with
  | kept same => exact same.trans frozen
  | settled _ settled => exact settled

theorem step_knownSettled {id : Nat} (known : KnownSettled id pass) :
    KnownSettled id (step context framed pass) := by
  obtain ⟨given, settled⟩ := known
  have spec := @step_spec context framed pass _
  generalize step context framed pass = next at spec ⊢
  cases spec with
  | apart => exact ⟨given, settled⟩
  | followed routed found =>
    unfold KnownSettled
    rw [follow_histories, follow_nextHistoryId]
    exact ⟨given, History.settledId_set found History.absorb_id absorb_frozen settled⟩
  | kept routed found =>
    unfold KnownSettled
    rw [hold_histories]
    exact ⟨given, History.settledId_set found rfl (fun frozen => frozen) settled⟩
  | created routed =>
    unfold KnownSettled
    rw [create_histories, create_nextHistoryId]
    refine ⟨Nat.lt_succ_of_lt given, ?_⟩
    intro history member named
    rcases List.mem_append.mp member with old | new
    · exact settled history old named
    · -- A new load has an id of its own.
      obtain rfl := List.mem_singleton.mp new
      rw [History.absorb_id, createHistory_id] at named
      omega

theorem through_knownSettled {id : Nat} (known : KnownSettled id pass) :
    KnownSettled id (pass.through context groups) :=
  through_invariant (KnownSettled id) known fun _ _ _ => step_knownSettled

theorem settledBy_id_ne {id : Nat} (known : KnownSettled id pass)
    (settles : settledBy context framed pass = some history) : history.id ≠ id := by
  obtain ⟨given, settled⟩ := known
  unfold settledBy absorber at settles
  obtain ⟨absorbed, found, froze⟩ := Option.bind_eq_some_iff.mp settles
  obtain ⟨before, known, rfl⟩ := Option.map_eq_some_iff.mp found
  split at froze
  · rename_i settling
    obtain rfl := Option.some.inj froze
    rw [History.absorb_id]
    split at known
    · -- A history that was remembered was not settled, but every history with the id is.
      intro named
      have frozen := settled before (List.mem_of_getElem? known) named
      have spec := @History.absorb_settling context before _ framed.sighting
      rw [settling] at spec
      cases spec with
      | settled unsettled =>
        rw [frozen] at unsettled
        cases unsettled
    · obtain rfl := Option.some.inj known
      rw [createHistory_id]
      omega
    · cases known
  · cases froze

theorem step_settles (numbered : Numbered pass.histories pass.nextHistoryId)
    (settles : settledBy context framed pass = some history) :
    KnownSettled history.id (step context framed pass) := by
  unfold settledBy absorber at settles
  obtain ⟨absorbed, found, froze⟩ := Option.bind_eq_some_iff.mp settles
  obtain ⟨before, known, rfl⟩ := Option.map_eq_some_iff.mp found
  split at froze
  · rename_i settling
    obtain rfl := Option.some.inj froze
    have frozen : (before.absorb context
        framed.sighting).history.prelift.preliftReferenceFrozen = true := by
      have spec := @History.absorb_settling context before _ framed.sighting
      rw [settling] at spec
      cases spec with
      | settled _ frozen => exact frozen
    have spec := @step_spec context framed pass _
    generalize step context framed pass = next at spec ⊢
    cases spec with
    | apart association frame anyAmbiguity old unplaced =>
      split at known
      · rename_i index routed
        rw [unplaced index (by simp [placeOf, routed])] at known
        cases known
      · rename_i routed
        exact absurd routed old
      · cases known
    | @followed index history routed present =>
      rw [routed] at known
      obtain rfl := Option.some.inj (present.symm.trans known)
      unfold KnownSettled
      rw [follow_histories, follow_nextHistoryId, History.absorb_id]
      refine ⟨numbered.2 _ (List.mem_map_of_mem (List.mem_of_getElem? present)), ?_⟩
      intro other member named
      -- No other history has the id of the one that was seen.
      obtain ⟨position, within, rfl⟩ := List.mem_iff_getElem.mp member
      rw [List.getElem_set]
      split
      · exact frozen
      · rename_i elsewhere
        exfalso
        rw [List.length_set] at within
        rw [List.getElem_set_of_ne elsewhere] at named
        have here : (History.idsOf pass.histories)[index]? = some history.id := by
          simp [History.idsOf, present]
        have there : (History.idsOf pass.histories)[position]? = some history.id := by
          simp [History.idsOf, within, named]
        obtain ⟨inside, first⟩ := List.getElem?_eq_some_iff.mp here
        obtain ⟨inside', second⟩ := List.getElem?_eq_some_iff.mp there
        exact elsewhere ((List.Nodup.getElem_inj_iff numbered.1).mp (first.trans second.symm))
    | kept routed =>
      rw [routed] at known
      cases known
    | created routed =>
      rw [routed] at known
      obtain rfl := Option.some.inj known
      unfold KnownSettled
      rw [create_histories, create_nextHistoryId, History.absorb_id, createHistory_id]
      refine ⟨Nat.lt_succ_self _, ?_⟩
      intro other member named
      rcases List.mem_append.mp member with old | new
      · -- The histories from before have ids that were given out before.
        have below := numbered.2 _ (List.mem_map_of_mem old)
        omega
      · obtain rfl := List.mem_singleton.mp new
        exact frozen
  · cases froze

theorem upTo_knownSettled {id first second : Nat} (ordered : first ≤ second)
    (known : KnownSettled id (upTo context pass groups first)) :
    KnownSettled id (upTo context pass groups second) := by
  induction second with
  | zero =>
    obtain rfl := Nat.le_zero.mp ordered
    exact known
  | succ second ih =>
    rcases Nat.lt_or_ge first (second + 1) with before | after
    · have earlier := ih (Nat.le_of_lt_succ before)
      by_cases within : second < groups.length
      · rw [upTo_succ (List.getElem?_eq_getElem within)]
        exact step_knownSettled earlier
      · -- Beyond the last group, the pass stays as it is.
        rw [upTo_of_le (by omega)]
        rw [upTo_of_le (by omega)] at earlier
        exact earlier
    · obtain rfl := Nat.le_antisymm ordered after
      exact known

theorem upTo_numbered {count : Nat} (numbered : Numbered pass.histories pass.nextHistoryId) :
    Numbered (upTo context pass groups count).histories
      (upTo context pass groups count).nextHistoryId :=
  through_numbered numbered

theorem settledAt_id {position : Nat} (numbered : Numbered pass.histories pass.nextHistoryId)
    (settles : settledAt context pass groups position = some history) :
    (∀ id, KnownSettled id pass → history.id ≠ id) ∧
      KnownSettled history.id (pass.through context groups) := by
  obtain ⟨framed, found, settled⟩ := Option.bind_eq_some_iff.mp settles
  constructor
  · intro id known
    exact settledBy_id_ne (@upTo_knownSettled _ context pass groups id 0 position
      (Nat.zero_le _) known) settled
  · have here := step_settles (@upTo_numbered _ context pass groups position numbered) settled
    rw [← upTo_succ found] at here
    have within := (List.getElem?_eq_some_iff.mp found).1
    have after := @upTo_knownSettled _ context pass groups history.id (position + 1) groups.length
      within here
    rwa [upTo_length] at after

end Settled

end GroupPass

end NdtSlam
