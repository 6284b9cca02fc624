import NdtSlam.Identity.PassRun

/-! What the pass over the groups of a frame does to the formal reference. -/

namespace NdtSlam

structure FormalReference where
  baselineZ : Scalar
  baselineUncertaintyM : Scalar
  frozenFootprint : CargoFootprintSnapshot
  frozenOwnerCells : List CargoFootprintGridIndex
  sourceLifecycleId : Nat
  sourcePhysicalEpoch : Nat
  sourceHistoryId : Nat

def FrozenPreloadReferenceCertificate.reference (certificate : FrozenPreloadReferenceCertificate) :
    FormalReference where
  baselineZ := certificate.baselineZ
  baselineUncertaintyM := certificate.baselineUncertaintyM
  frozenFootprint := certificate.frozenFootprint
  frozenOwnerCells := certificate.frozenOwnerCells
  sourceLifecycleId := certificate.sourceLifecycleId
  sourcePhysicalEpoch := certificate.sourcePhysicalEpoch
  sourceHistoryId := certificate.sourceHistoryId

namespace DiagnosticSurfaceReferenceLock

def reference (lock : DiagnosticSurfaceReferenceLock) : FormalReference where
  baselineZ := lock.baselineZ
  baselineUncertaintyM := lock.baselineUncertaintyM
  frozenFootprint := lock.frozenFootprint
  frozenOwnerCells := lock.frozenOwnerCells
  sourceLifecycleId := lock.sourceLifecycleId
  sourcePhysicalEpoch := lock.sourcePhysicalEpoch
  sourceHistoryId := lock.sourceHistoryId

def noteOverwriteAttempts (count : Nat) (lock : DiagnosticSurfaceReferenceLock) :
    DiagnosticSurfaceReferenceLock :=
  { lock with overwriteAttemptCount := lock.overwriteAttemptCount + count }

end DiagnosticSurfaceReferenceLock

namespace GroupPass

section Absorbers

variable [IdentityMath] (context : ObservationContext) (framed : FramedGroup) (pass : GroupPass)

def absorber : Option History :=
  match routeOf context framed pass.histories with
  | .matched index => pass.histories[index]?
  | .created => some (createHistory context framed pass).1
  | _ => none

def settledBy : Option History :=
  ((absorber context framed pass).map (·.absorb context framed.sighting)).bind fun absorbed =>
    if absorbed.froze then some absorbed.history else none

variable (groups : List FramedGroup)

def settledAt (position : Nat) : Option History :=
  (groups[position]?).bind fun framed =>
    settledBy context framed (upTo context pass groups position)

def freezesUpTo (count : Nat) : Nat :=
  (List.range count).countP fun position => (settledAt context pass groups position).isSome

def freezes : Nat := freezesUpTo context pass groups groups.length

end Absorbers

section Steps

variable {context : ObservationContext} {framed : FramedGroup} {pass : GroupPass}

theorem commit_writes {froze : Bool} {history : History} :
    let next := commit context framed pass froze history
    let certificate := certificateOf context.lifecycleId framed.group.descriptor.stampSec history
    (froze = false ∧ next = pass) ∨
      (froze = true ∧ pass.handover.certificate.isSome ∧
        next = { pass with referenceLock := pass.referenceLock.noteOverwriteAttempt }) ∨
      (froze = true ∧ pass.handover.certificate = none ∧ next = { pass with
        handover := { pass.handover with
          certificate := some certificate
          invalidateReason := "none" }
        referenceLock := pass.referenceLock.initializeFromCertificate certificate
        certificateCreated := true }) := by
  unfold commit
  -- Only the first settled reference becomes the formal one.
  cases froze with
  | false => exact .inl ⟨rfl, rfl⟩
  | true =>
    cases present : pass.handover.certificate with
    | none => exact .inr (.inr ⟨rfl, rfl, rfl⟩)
    | some certificate => exact .inr (.inl ⟨rfl, rfl, rfl⟩)

structure SameReference (pass next : GroupPass) : Prop where
  certificate : next.handover.certificate = pass.handover.certificate
  referenceLock : next.referenceLock = pass.referenceLock
  created : next.certificateCreated = pass.certificateCreated

structure SameBoundary (pass next : GroupPass) : Prop where
  boundary : next.handover.boundary = pass.handover.boundary
  authorized : next.handover.formalLiftBoundaryAuthorized =
    pass.handover.formalLiftBoundaryAuthorized

inductive Wrote (context : ObservationContext) (framed : FramedGroup) (pass next : GroupPass) :
    Option History → Prop where
  | nothing (same : SameReference pass next) : Wrote context framed pass next none
  | counted {history : History} (present : pass.handover.certificate.isSome)
      (certificate : next.handover.certificate = pass.handover.certificate)
      (counted : next.referenceLock = pass.referenceLock.noteOverwriteAttempt)
      (created : next.certificateCreated = pass.certificateCreated) :
      Wrote context framed pass next (some history)
  | created {history : History} (vacant : pass.handover.certificate = none)
      (certificate : next.handover.certificate = some
        (certificateOf context.lifecycleId framed.group.descriptor.stampSec history))
      (initialized : next.referenceLock = pass.referenceLock.initializeFromCertificate
        (certificateOf context.lifecycleId framed.group.descriptor.stampSec history))
      (created : next.certificateCreated = true) :
      Wrote context framed pass next (some history)

theorem wrote_of_commit {before next : GroupPass} {froze : Bool} {history : History}
    (same : SameReference pass before)
    (committed : SameReference (commit context framed before froze history) next) :
    Wrote context framed pass next (if froze then some history else none) := by
  obtain ⟨sameCertificate, sameLock, sameCreated⟩ := same
  rcases @commit_writes context framed before froze history with
    ⟨rfl, kept⟩ | ⟨rfl, present, kept⟩ | ⟨rfl, vacant, kept⟩
  · rw [kept] at committed
    exact .nothing ⟨committed.1.trans sameCertificate, committed.2.trans sameLock,
      committed.3.trans sameCreated⟩
  · rw [kept] at committed
    refine .counted (sameCertificate ▸ present) (committed.1.trans sameCertificate) ?_
      (committed.3.trans sameCreated)
    rw [committed.2, ← sameLock]
  · rw [kept] at committed
    refine .created (sameCertificate ▸ vacant) committed.1 ?_ committed.3
    rw [committed.2, ← sameLock]

variable [IdentityMath]

variable (context framed pass) in
def resumed (index : Nat) (history : History) : GroupPass :=
  { pass with
    frameAssociation := if pass.frameAssociation = .ambiguous then .ambiguous else .matched
    histories := pass.histories.set index (history.absorb context framed.sighting).history }

variable (context framed pass) in
def begun : GroupPass :=
  let history := (createHistory context framed pass).1
  let seeds := (createHistory context framed pass).2
  { pass with
    histories := pass.histories ++ [(history.absorb context framed.sighting).history]
    nextHistoryId := pass.nextHistoryId + 1
    handover := if seeds then { pass.handover with handoff := none } else pass.handover
    postloadHistoryId := if seeds then some history.id else pass.postloadHistoryId }

theorem step_wrote : Wrote context framed pass (step context framed pass)
    (settledBy context framed pass) := by
  have spec := @step_spec context framed pass _
  generalize step context framed pass = next at spec ⊢
  unfold settledBy absorber
  cases spec with
  | apart association frame anyAmbiguity old unplaced =>
    -- A group that belongs to no load settles nothing.
    have absent : (match routeOf context framed pass.histories with
        | .matched index => pass.histories[index]?
        | .created => some (createHistory context framed pass).1
        | _ => none) = none := by
      split
      · rename_i index routed
        exact unplaced index (by simp [placeOf, routed])
      · rename_i routed
        exact absurd routed old
      · rfl
    rw [absent]
    exact .nothing ⟨rfl, rfl, rfl⟩
  | @followed index history routed found =>
    simp only [routed, found, Option.map_some, Option.bind_some]
    exact @wrote_of_commit context framed pass (resumed context framed pass index history) _ _ _
      ⟨rfl, rfl, rfl⟩ ⟨rfl, rfl, rfl⟩
  | kept routed found =>
    simp only [routed]
    exact .nothing ⟨rfl, rfl, rfl⟩
  | created routed =>
    simp only [routed, Option.map_some, Option.bind_some]
    refine @wrote_of_commit context framed pass (begun context framed pass) _ _ _ ⟨?_, rfl, rfl⟩
      ⟨rfl, rfl, rfl⟩
    -- Inheriting a handoff leaves the certificate alone.
    unfold begun
    dsimp only
    split
    · rfl
    · rfl

end Steps

section Handoffs

variable [IdentityMath] {context : ObservationContext} {framed : FramedGroup} {pass : GroupPass}

omit [IdentityMath] in
theorem commit_handoff {froze : Bool} {history : History} :
    (commit context framed pass froze history).handover.handoff = pass.handover.handoff := by
  rcases @commit_writes context framed pass froze history with
    ⟨-, same⟩ | ⟨-, -, same⟩ | ⟨-, -, same⟩
  · rw [same]
  · rw [same]
  · rw [same]

inductive HandoffStep (framed : FramedGroup) (pass next : GroupPass) : Prop where
  | kept {diagnostic : CargoPhysicalGroupDiagnostic}
      (noted : next.diagnostics = pass.diagnostics ++ [diagnostic])
      (unspent : diagnostic.preloadHandoffConsumed = false)
      (same : next.handover.handoff = pass.handover.handoff)
      (given : pass.nextHistoryId ≤ next.nextHistoryId)
  | spent {diagnostic : CargoPhysicalGroupDiagnostic} {handoff : PreLoadHandoffSnapshot}
      (noted : next.diagnostics = pass.diagnostics ++ [diagnostic])
      (spent : diagnostic.preloadHandoffConsumed = true)
      (named : diagnostic.matchedHistoryId = some pass.nextHistoryId)
      (measured : framed.handoffVertical.isSome) (present : pass.handover.handoff = some handoff)
      (gone : next.handover.handoff = none)
      (given : next.nextHistoryId = pass.nextHistoryId + 1)

omit [IdentityMath] in
theorem createHistory_seeds : (createHistory context framed pass).2 =
    (framed.handoffVertical.isSome && pass.handover.handoff.isSome) := by
  unfold createHistory
  dsimp only
  cases framed.handoffVertical with
  | none => split <;> rfl
  | some vertical =>
    cases pass.handover.handoff with
    | none => split <;> rfl
    | some handoff => split <;> rfl

theorem step_handoff : HandoffStep framed pass (step context framed pass) := by
  have spec := @step_spec context framed pass _
  generalize step context framed pass = next at spec ⊢
  cases spec with
  | apart => exact .kept rfl rfl rfl (Nat.le_refl _)
  | @followed index history =>
    exact .kept (congrArg (· ++ [_]) commit_frame.2.2.1) rfl commit_handoff
      (Nat.le_of_eq follow_nextHistoryId.symm)
  | kept => exact .kept rfl rfl rfl (Nat.le_refl _)
  | created routed =>
    have seeds := @createHistory_seeds context framed pass
    have noted : (create context framed pass).diagnostics = pass.diagnostics ++ [_] :=
      congrArg (· ++ [_]) commit_frame.2.2.1
    have dropped : (create context framed pass).handover.handoff =
        (begun context framed pass).handover.handoff := commit_handoff
    -- The load inherits the handoff if it was measured for it.
    cases inherits : (createHistory context framed pass).2 with
    | false =>
      refine .kept noted inherits (dropped.trans ?_) ?_
      · unfold begun
        rw [inherits]
        rfl
      · rw [create_nextHistoryId]
        omega
    | true =>
      rw [inherits] at seeds
      simp only [Bool.true_eq, Bool.and_eq_true] at seeds
      obtain ⟨handoff, present⟩ := Option.isSome_iff_exists.mp seeds.2
      refine .spent noted inherits ?_ seeds.1 present (dropped.trans ?_) create_nextHistoryId
      · exact congrArg some createHistory_id
      · unfold begun
        rw [inherits]
        rfl

end Handoffs

section Runs

variable [IdentityMath] {context : ObservationContext} {pass : GroupPass}
  {groups : List FramedGroup}

inductive Recorded (context : ObservationContext) (pass : GroupPass) (groups : List FramedGroup)
    (count : Nat) (next : GroupPass) : Prop where
  | counted (vacant : pass.handover.certificate = none → freezesUpTo context pass groups count = 0)
      (certificate : next.handover.certificate = pass.handover.certificate)
      (lock : next.referenceLock = pass.referenceLock.noteOverwriteAttempts
        (freezesUpTo context pass groups count))
      (created : next.certificateCreated = pass.certificateCreated)
  | created {position later : Nat} {framed : FramedGroup} {history : History}
      (vacant : pass.handover.certificate = none)
      (found : groups[position]? = some framed)
      (settled : settledAt context pass groups position = some history)
      (certificate : next.handover.certificate = some
        (certificateOf context.lifecycleId framed.group.descriptor.stampSec history))
      (number : freezesUpTo context pass groups count = later + 1)
      (lock : next.referenceLock = (pass.referenceLock.initializeFromCertificate
        (certificateOf context.lifecycleId framed.group.descriptor.stampSec
          history)).noteOverwriteAttempts later)
      (created : next.certificateCreated = true)

theorem freezesUpTo_succ {count : Nat} : freezesUpTo context pass groups (count + 1) =
    freezesUpTo context pass groups count +
      if (settledAt context pass groups count).isSome then 1 else 0 := by
  unfold freezesUpTo
  rw [List.range_succ, List.countP_append]
  simp [List.countP_cons]

theorem upTo_recorded : ∀ count ≤ groups.length,
    Recorded context pass groups count (upTo context pass groups count) := by
  intro count
  -- The pass goes through the groups one after the other.
  induction count with
  | zero => exact fun _ => .counted (fun _ => rfl) rfl rfl rfl
  | succ count ih =>
    intro within
    have found : groups[count]? = some groups[count] := List.getElem?_eq_getElem within
    have settledHere : settledAt context pass groups count =
        settledBy context groups[count] (upTo context pass groups count) := by
      simp [settledAt, found]
    have wrote := @step_wrote context groups[count] (upTo context pass groups count) _
    rw [← settledHere, ← upTo_succ found] at wrote
    have number := @freezesUpTo_succ _ context pass groups count
    cases settled : settledAt context pass groups count with
    | none =>
      rw [settled] at wrote number
      cases wrote with
      | nothing same =>
        obtain ⟨sameCertificate, sameLock, sameCreated⟩ := same
        cases ih (Nat.le_of_succ_le within) with
        | counted vacant certificate lock created =>
          exact .counted (fun empty => number.trans (vacant empty))
            (sameCertificate.trans certificate) (by rw [sameLock, lock, number]; rfl)
            (sameCreated.trans created)
        | created vacant found settled certificate number' lock created =>
          exact .created vacant found settled (sameCertificate.trans certificate)
            (number.trans number') (sameLock.trans lock) (sameCreated.trans created)
    | some history =>
      rw [settled] at wrote number
      cases wrote with
      | counted present sameCertificate noted sameCreated =>
        cases ih (Nat.le_of_succ_le within) with
        | counted vacant certificate lock created =>
          refine .counted (fun empty => ?_) (sameCertificate.trans certificate)
            (by rw [noted, lock, number]; rfl) (sameCreated.trans created)
          rw [certificate, empty] at present
          cases present
        | created vacant found settled certificate number' lock created =>
          exact .created vacant found settled (sameCertificate.trans certificate)
            (number.trans (congrArg (· + 1) number')) (by rw [noted, lock]; rfl)
            (sameCreated.trans created)
      | created empty certificate initialized created =>
        cases ih (Nat.le_of_succ_le within) with
        | counted vacant sameCertificate lock _ =>
          -- No reference was settled before, so there is nothing to count.
          rw [sameCertificate] at empty
          have none := vacant empty
          rw [none] at lock number
          exact .created empty found settled certificate number (by rw [initialized, lock]; rfl)
            created
        | created _ _ _ present =>
          rw [present] at empty
          cases empty

theorem through_recorded :
    Recorded context pass groups groups.length (pass.through context groups) := by
  have recorded := @upTo_recorded _ context pass groups groups.length (Nat.le_refl _)
  rwa [upTo_length] at recorded

theorem through_boundary : SameBoundary pass (pass.through context groups) := by
  refine through_invariant (SameBoundary pass) ⟨rfl, rfl⟩ ?_
  rintro framed - before ⟨boundary, authorized⟩
  have commits {froze : Bool} {history : History} {start : GroupPass} :
      SameBoundary start (commit context framed start froze history) := by
    rcases @commit_writes context framed start froze history with
      ⟨-, kept⟩ | ⟨-, -, kept⟩ | ⟨-, -, kept⟩
    · exact ⟨by rw [kept], by rw [kept]⟩
    · exact ⟨by rw [kept], by rw [kept]⟩
    · exact ⟨by rw [kept], by rw [kept]⟩
  have spec := @step_spec context framed before _
  generalize step context framed before = next at spec ⊢
  cases spec with
  | apart => exact ⟨boundary, authorized⟩
  | @followed index history =>
    obtain ⟨sameBoundary, sameAuthorized⟩ := @commits
      (history.absorb context framed.sighting).froze
      (history.absorb context framed.sighting).history (resumed context framed before index history)
    exact ⟨sameBoundary.trans boundary, sameAuthorized.trans authorized⟩
  | kept => exact ⟨boundary, authorized⟩
  | created =>
    have kept : SameBoundary before (begun context framed before) := by
      unfold begun
      -- Inheriting a handoff leaves the boundary alone.
      dsimp only
      split
      · exact ⟨rfl, rfl⟩
      · exact ⟨rfl, rfl⟩
    obtain ⟨sameBoundary, sameAuthorized⟩ := @commits
      ((createHistory context framed before).1.absorb context framed.sighting).froze
      ((createHistory context framed before).1.absorb context framed.sighting).history
      (begun context framed before)
    exact ⟨sameBoundary.trans (kept.1.trans boundary),
      sameAuthorized.trans (kept.2.trans authorized)⟩

inductive Handed (pass : GroupPass) (groups : List FramedGroup) (next : GroupPass) : Prop where
  | kept (same : next.handover.handoff = pass.handover.handoff)
      (unspent : ∀ diagnostic ∈ next.diagnostics, diagnostic.preloadHandoffConsumed = false)
  | spent {position id : Nat} {framed : FramedGroup} {handoff : PreLoadHandoffSnapshot}
      {diagnostic : CargoPhysicalGroupDiagnostic} (present : pass.handover.handoff = some handoff)
      (gone : next.handover.handoff = none) (found : groups[position]? = some framed)
      (measured : framed.handoffVertical.isSome)
      (noted : next.diagnostics[position]? = some diagnostic)
      (named : diagnostic.matchedHistoryId = some id)
      (given : pass.nextHistoryId ≤ id ∧ id < next.nextHistoryId)
      (sole : ∀ (other : Nat) diagnostic', next.diagnostics[other]? = some diagnostic' →
        diagnostic'.preloadHandoffConsumed = true → other = position)

theorem upTo_handed (fresh : pass.diagnostics = []) : ∀ count ≤ groups.length,
    (upTo context pass groups count).diagnostics.length = count ∧
      pass.nextHistoryId ≤ (upTo context pass groups count).nextHistoryId ∧
      Handed pass groups (upTo context pass groups count) := by
  intro count
  -- The pass goes through the groups one after the other.
  induction count with
  | zero =>
    intro _
    refine ⟨by simp [fresh], Nat.le_refl _, .kept rfl ?_⟩
    intro diagnostic member
    rw [upTo_zero, fresh] at member
    cases member
  | succ count ih =>
    intro within
    have found : groups[count]? = some groups[count] := List.getElem?_eq_getElem within
    obtain ⟨length, given, handed⟩ := ih (Nat.le_of_succ_le within)
    have stepped := @step_handoff _ context groups[count] (upTo context pass groups count)
    rw [← upTo_succ found] at stepped
    cases stepped with
    | kept noted unspent same given' =>
      refine ⟨by rw [noted]; simp [length], Nat.le_trans given given', ?_⟩
      cases handed with
      | kept sameBefore unspentBefore =>
        refine .kept (same.trans sameBefore) ?_
        intro diagnostic member
        rw [noted] at member
        rcases List.mem_append.mp member with old | new
        · exact unspentBefore diagnostic old
        · obtain rfl := List.mem_singleton.mp new
          exact unspent
      | @spent position id framed handoff diagnostic present gone foundBefore measured notedBefore
          named givenBefore sole =>
        have earlier : position < count := by
          have known := (List.getElem?_eq_some_iff.mp notedBefore).1
          omega
        refine .spent present (same.trans gone) foundBefore measured ?_ named
          ⟨givenBefore.1, Nat.lt_of_lt_of_le givenBefore.2 given'⟩ ?_
        · rw [noted, List.getElem?_append_left (by omega)]
          exact notedBefore
        · intro other diagnostic' listed spent
          rw [noted] at listed
          -- The last group inherits nothing, so the one that does came before it.
          rcases Nat.lt_or_ge other count with before | last
          · rw [List.getElem?_append_left (by omega)] at listed
            exact sole other diagnostic' listed spent
          · rw [List.getElem?_append_right (by omega)] at listed
            have here : diagnostic' ∈ [_] := List.mem_of_getElem? listed
            obtain rfl := List.mem_singleton.mp here
            rw [unspent] at spent
            cases spent
    | @spent diagnostic handoff noted spent named measured present gone given' =>
      refine ⟨by rw [noted]; simp [length], by omega, ?_⟩
      cases handed with
      | kept sameBefore unspentBefore =>
        rw [sameBefore] at present
        refine .spent present gone found measured ?_ named ⟨given, by omega⟩ ?_
        · rw [noted, List.getElem?_append_right (by omega), length, Nat.sub_self]
          rfl
        · intro other diagnostic' listed spent'
          rw [noted] at listed
          rcases Nat.lt_or_ge other count with before | last
          · rw [List.getElem?_append_left (by omega)] at listed
            have unspent := unspentBefore diagnostic' (List.mem_of_getElem? listed)
            rw [unspent] at spent'
            cases spent'
          · have known := (List.getElem?_eq_some_iff.mp listed).1
            simp only [List.length_append, List.length_singleton] at known
            omega
      | spent _ goneBefore =>
        -- A handoff that is gone is not inherited once more.
        rw [goneBefore] at present
        cases present

theorem through_handed (fresh : pass.diagnostics = []) :
    Handed pass groups (pass.through context groups) := by
  have handed := (@upTo_handed _ context pass groups fresh groups.length (Nat.le_refl _)).2.2
  rwa [upTo_length] at handed

end Runs

end GroupPass

end NdtSlam
