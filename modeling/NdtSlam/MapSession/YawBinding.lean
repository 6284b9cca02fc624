import NdtSlam.Foundation.History
import NdtSlam.MapSession.LoadVerified
import NdtSlam.MapSession.YawAuthority

/-! The frame of the map, the reference of the yaw authority, and what a session says of both. -/

namespace NdtSlam

abbrev MapUuid := { text : String // text ≠ "" }

structure YawSettings where
  legacy : Bool
  configured : RailYawReference
  mapFrame : String
  baseFrame : String
  formatYaw : Scalar → String

/-- What a reader says about the frame of a map and its heading. -/
structure LoadedHeading extends PersistentRegistration.MapHeading where
  belongs : railWriteAuthorized = true →
    yawReference.verified = true ∧ yawReference.mapFrameUuid = mapFrameUuid

structure SessionHeading extends LoadedHeading where
  framed : mapFrameUuid ≠ ""

def LoadedHeading.frame (heading : LoadedHeading) (current : MapUuid) : MapUuid :=
  if named : heading.mapFrameUuid = "" then current else ⟨heading.mapFrameUuid, named⟩

def LoadedHeading.granted (heading : LoadedHeading) : Option RailYawReference :=
  if heading.railWriteAuthorized then some heading.yawReference else none

structure MapBinding where
  authority : RailYawAuthority := {}
  mapFrameUuid : MapUuid
  railMapWriteAuthorized : Bool := false
  loadedReference : Option RailYawReference := none

structure SavedHeading where
  mapFrameUuid : String
  frameId : String
  baseFrameId : String
  mapFrameConventionId : String
  sensorRigCalibrationId : String
  yawReference : RailYawReference

inductive MapBindingCall where
  | restore (heading : LoadedHeading)
  | loadCloud (generated : MapUuid)
  | loadSession (heading : SessionHeading)
  | save (succeeds : Bool)

namespace MapBinding

variable (settings : YawSettings) (self : MapBinding)

def configuredAuthority : RailYawAuthority :=
  if !settings.legacy && settings.configured.verified then
    (RailYawAuthority.initializeReference settings.formatYaw {} settings.configured
      (if settings.configured.source = .newMapBootstrapReference then .initializeFreshMap
        else .loadVerifiedSession)).2
  else {}

def start (generated : MapUuid) : MapBinding :=
  let authority := configuredAuthority settings
  let mapFrameUuid : MapUuid :=
    if named : settings.configured.mapFrameUuid = "" then generated
    else ⟨settings.configured.mapFrameUuid, named⟩
  { authority, mapFrameUuid
    railMapWriteAuthorized :=
      authority.valid && authority.reference.mapFrameUuid == mapFrameUuid.val }

def initializeFrom (reference : RailYawReference) : MapBinding :=
  let (accepted, authority) := self.authority.initializeReference settings.formatYaw reference
    .loadVerifiedSession
  { self with authority, railMapWriteAuthorized := accepted }

def restorePersistentRegistrationTarget (heading : LoadedHeading) : MapBinding :=
  let restored : MapBinding := { self with
    mapFrameUuid := heading.frame self.mapFrameUuid
    railMapWriteAuthorized := heading.railWriteAuthorized
    loadedReference := heading.granted }
  if heading.railWriteAuthorized then
    if !self.authority.valid then restored.initializeFrom settings heading.yawReference
    else if self.authority.reference.referenceHash ≠ heading.yawReference.referenceHash then
      { restored with railMapWriteAuthorized := false }
    else restored
  else restored

def installCloud (generated : MapUuid) : MapBinding :=
  { self with
    mapFrameUuid := generated, railMapWriteAuthorized := false, loadedReference := none }

def installSession (heading : SessionHeading) : MapBinding :=
  let loaded : MapBinding := { self with
    mapFrameUuid := ⟨heading.mapFrameUuid, heading.framed⟩
    railMapWriteAuthorized := heading.railWriteAuthorized
    loadedReference := heading.granted }
  if !settings.legacy && heading.railWriteAuthorized then
    if !self.authority.valid then loaded.initializeFrom settings heading.yawReference
    else if self.authority.reference.referenceHash ≠ heading.yawReference.referenceHash ∨
        self.authority.reference.mapFrameUuid ≠ heading.yawReference.mapFrameUuid then
      { loaded with railMapWriteAuthorized := false }
    else loaded
  else loaded

def requestHeading : SavedHeading :=
  let source :=
    if self.authority.valid then self.authority.reference else settings.configured
  { mapFrameUuid := self.mapFrameUuid
    frameId := settings.mapFrame
    baseFrameId := settings.baseFrame
    mapFrameConventionId := source.mapFrameConventionId
    sensorRigCalibrationId := source.sensorRigCalibrationId
    yawReference :=
      { (if self.authority.valid then self.authority.reference else {}) with
        mapFrameUuid := self.mapFrameUuid
        mapFrameId := settings.mapFrame
        baseFrameId := settings.baseFrame } }

def orElse (text substitute : String) : String := if text = "" then substitute else text

def saveAtomic (request : SavedHeading) : Option SavedHeading :=
  let completed := { request.yawReference with
    mapFrameUuid := orElse request.yawReference.mapFrameUuid request.mapFrameUuid
    mapFrameId := orElse request.yawReference.mapFrameId request.frameId
    baseFrameId := orElse request.yawReference.baseFrameId request.baseFrameId
    mapFrameConventionId :=
      orElse request.yawReference.mapFrameConventionId request.mapFrameConventionId
    sensorRigCalibrationId :=
      orElse request.yawReference.sensorRigCalibrationId request.sensorRigCalibrationId }
  if completed.verified then
    -- The hash is made anew, whatever the reference has been issued for.
    let signed := { completed with
      referenceHash := completed.semanticYawReferenceHash settings.formatYaw }
    if signed.mapFrameUuid ≠ request.mapFrameUuid then none
    else
      match signed.validateRailYawReference settings.formatYaw with
      | .ok () => some { request with yawReference := signed }
      | .error _ => none
  else some { request with yawReference := completed }

def saveMapSessionAtomic (succeeds : Bool) : Option SavedHeading :=
  if succeeds then saveAtomic settings (self.requestHeading settings) else none

def step : MapBindingCall → MapBinding × Option SavedHeading
  | .restore heading => (self.restorePersistentRegistrationTarget settings heading, none)
  | .loadCloud generated => (self.installCloud generated, none)
  | .loadSession heading => (self.installSession settings heading, none)
  | .save succeeds => (self, self.saveMapSessionAtomic settings succeeds)

end MapBinding

def mapBinding (settings : YawSettings) (generated : MapUuid) :
    Machine MapBinding MapBindingCall (Option SavedHeading) where
  start := .start settings generated
  step self call := self.step settings call

abbrev MapBindingEvent := Event MapBinding MapBindingCall

namespace MapBinding

variable {settings : YawSettings} {self : MapBinding}

/-! ### Loads and saves -/

structure Carries (binding : MapBinding) : Prop where
  frame : binding.authority.reference.mapFrameUuid = binding.mapFrameUuid
  authorized : binding.railMapWriteAuthorized = true
  loaded : ∀ reference ∈ binding.loadedReference,
    reference.referenceHash = binding.authority.reference.referenceHash ∧
      reference.mapFrameUuid = binding.authority.reference.mapFrameUuid

def KeepsBinding (self : MapBinding) (saved : SavedHeading) : Prop :=
  saved.yawReference.verified = true →
    self.authority.reference.mapFrameUuid = saved.mapFrameUuid ∧ self.Carries

def Agrees (self : MapBinding) (heading : LoadedHeading) : Prop :=
  self.authority.valid = true → heading.railWriteAuthorized = true ∧
    heading.yawReference.referenceHash = self.authority.reference.referenceHash ∧
    heading.yawReference.mapFrameUuid = self.authority.reference.mapFrameUuid

/-- The most recent load was one of the reference that the authority held, if it held one. -/
def Bound : List MapBindingEvent → Prop
  | [] => True
  | event :: older =>
    match event.call with
    | .restore heading => event.before.Agrees heading
    | .loadCloud _ => event.before.authority.valid = false
    | .loadSession heading => event.before.Agrees heading.toLoadedHeading
    | .save _ => Bound older

structure Sound (past : List MapBindingEvent) (binding : MapBinding) : Prop where
  verified : binding.authority.valid = true → binding.authority.reference.verified = true ∧
    binding.authority.reference.mapFrameUuid ≠ ""
  free : binding.authority.valid = false → Bound past
  held : binding.authority.valid = true → (Bound past ↔ binding.Carries)

theorem initializeReference_cases {formatYaw : Scalar → String} (authority : RailYawAuthority)
    (reference : RailYawReference) (reason : YawAuthorityTransitionReason) :
    authority.initializeReference formatYaw reference reason = (false, authority) ∨
      ∃ generation transition, authority.valid = false ∧
        reference.validateRailYawReference formatYaw = .ok () ∧
        authority.initializeReference formatYaw reference reason = (true, {
          valid := true
          reference :=
            { reference with railYawInMapRad := normalizeAngle reference.railYawInMapRad }
          generation, lastTransitionReason := transition }) := by
  unfold RailYawAuthority.initializeReference RailYawAuthority.assignReference
  split_ifs with valid other
  · exact .inl rfl
  · exact .inl rfl
  · cases checked : reference.validateRailYawReference formatYaw with
    | error reason => exact .inl rfl
    | ok passed => exact .inr ⟨_, _, by simpa using valid, rfl, rfl⟩

theorem configuredAuthority_cases :
    (configuredAuthority settings).valid = false ∨
      (configuredAuthority settings).reference.verified = true ∧
        (configuredAuthority settings).reference.mapFrameUuid = settings.configured.mapFrameUuid ∧
        settings.configured.mapFrameUuid ≠ "" := by
  unfold configuredAuthority
  by_cases configured : (!settings.legacy && settings.configured.verified) = true
  · rw [if_pos configured]
    rcases @initializeReference_cases settings.formatYaw {} settings.configured _
      with refused | ⟨generation, transition, -, checked, taken⟩
    · exact .inl (by rw [refused])
    · obtain ⟨-, verified, -, ⟨framed, -⟩, -⟩ := RailYawReference.validate_eq_ok.1 checked
      exact .inr ⟨by rw [taken]; exact verified, by rw [taken], framed⟩
  · rw [if_neg configured]
    exact .inl rfl

theorem sound_start (generated : MapUuid) : (start settings generated).Sound [] := by
  rcases @configuredAuthority_cases settings with none | ⟨verified, frame, framed⟩
  · have invalid : (start settings generated).authority.valid = false := none
    exact ⟨fun valid => absurd valid (by simp [invalid]), fun _ => trivial,
      fun valid => absurd valid (by simp [invalid])⟩
  · refine ⟨fun _ => ⟨verified, frame ▸ framed⟩, fun _ => trivial, fun valid => ?_⟩
    refine ⟨fun _ => ⟨?_, ?_, fun reference none => absurd none (by simp [start])⟩,
      fun _ => trivial⟩
    · simp only [start, dif_neg framed]
      exact frame
    · have held : (configuredAuthority settings).valid = true := valid
      simp [start, held, framed, frame]

variable {past : List MapBindingEvent}

theorem sound_initializeFrom {reference : RailYawReference} (invalid : self.authority.valid = false)
    (bound : Bound past)
    (frame : reference.mapFrameUuid ≠ "" → self.mapFrameUuid.val = reference.mapFrameUuid)
    (loaded : self.loadedReference = some reference) :
    (self.initializeFrom settings reference).Sound past := by
  unfold initializeFrom
  rcases @initializeReference_cases settings.formatYaw self.authority reference
    .loadVerifiedSession with refused | ⟨generation, transition, -, checked, taken⟩
  · rw [refused]
    exact ⟨fun valid => absurd valid (by simp [invalid]), fun _ => bound,
      fun valid => absurd valid (by simp [invalid])⟩
  · obtain ⟨-, verified, -, ⟨framed, -⟩, -⟩ := RailYawReference.validate_eq_ok.1 checked
    rw [taken]
    refine ⟨fun _ => ⟨verified, framed⟩, fun _ => bound, fun _ => ⟨fun _ => ?_, fun _ => bound⟩⟩
    refine ⟨(frame framed).symm, rfl, fun other same => ?_⟩
    rw [loaded, Option.mem_some_iff] at same
    exact same ▸ ⟨rfl, rfl⟩

theorem sound_of_refused
    (verified : self.authority.valid = true → self.authority.reference.verified = true ∧
      self.authority.reference.mapFrameUuid ≠ "")
    (bound : Bound past ↔ self.authority.valid = false)
    (refused : self.railMapWriteAuthorized = false) : self.Sound past := by
  refine ⟨verified, bound.mpr, fun valid => ⟨fun held => ?_, fun carries => ?_⟩⟩
  · exact absurd (bound.mp held) (by simp [valid])
  · exact absurd carries.authorized (by simp [refused])

theorem granted_eq {heading : LoadedHeading} (authorized : heading.railWriteAuthorized = true) :
    heading.granted = some heading.yawReference := by
  unfold LoadedHeading.granted
  rw [if_pos authorized]

theorem frame_val {heading : LoadedHeading} {current : MapUuid}
    (named : heading.mapFrameUuid ≠ "") : (heading.frame current).val = heading.mapFrameUuid := by
  unfold LoadedHeading.frame
  rw [dif_neg named]

theorem Sound.restore (held : self.Sound past) (heading : LoadedHeading) :
    (self.restorePersistentRegistrationTarget settings heading).Sound
      (⟨self, .restore heading⟩ :: past) := by
  have verified := held.verified
  unfold restorePersistentRegistrationTarget
  simp only
  split_ifs with authorized invalid other
  · -- The authority takes over the reference of the map.
    have free : self.authority.valid = false := by simpa using invalid
    refine sound_initializeFrom free (fun valid => absurd valid (by simp [free])) ?_
      (granted_eq authorized)
    intro framed
    have frame := (heading.belongs authorized).2
    exact (frame_val (frame ▸ framed)).trans frame.symm
  · -- The reference of the map is another one.
    refine sound_of_refused verified ?_ rfl
    refine ⟨fun agrees => ?_, fun free valid => absurd (valid.symm.trans free) (by simp)⟩
    exact absurd (agrees (by simpa using invalid)).2.1.symm other
  · have valid : self.authority.valid = true := by simpa using invalid
    have same : self.authority.reference.referenceHash = heading.yawReference.referenceHash := by
      simpa using other
    obtain ⟨-, framed⟩ := verified valid
    have belongs := (heading.belongs authorized).2
    refine ⟨verified, fun free => absurd (valid.symm.trans free) (by simp), fun _ => ?_⟩
    constructor
    · intro agrees
      obtain ⟨-, hash, frame⟩ := agrees valid
      refine ⟨?_, authorized, fun reference loaded => ?_⟩
      · have named : heading.mapFrameUuid ≠ "" := by rw [← belongs, frame]; exact framed
        exact frame.symm.trans (belongs.trans (frame_val named).symm)
      · cases (granted_eq authorized).symm.trans loaded
        exact ⟨hash, frame⟩
    · intro carries _
      exact ⟨authorized, carries.loaded _ (granted_eq authorized)⟩
  · -- The map does not authorize anything.
    have none : heading.railWriteAuthorized = false := by simpa using authorized
    refine sound_of_refused verified ?_ none
    refine ⟨fun agrees => ?_, fun free valid => absurd (valid.symm.trans free) (by simp)⟩
    by_contra valid
    exact authorized (agrees (by simpa using valid)).1

theorem Sound.session (held : self.Sound past) (heading : SessionHeading) :
    (self.installSession settings heading).Sound (⟨self, .loadSession heading⟩ :: past) := by
  have verified := held.verified
  -- Where nothing is compared, the session counts as what it is.
  have kept : ({ self with
      mapFrameUuid := ⟨heading.mapFrameUuid, heading.framed⟩
      railMapWriteAuthorized := heading.railWriteAuthorized
      loadedReference := heading.granted } : MapBinding).Sound
      (⟨self, .loadSession heading⟩ :: past) := by
    refine ⟨verified, fun free valid => absurd (valid.symm.trans free) (by simp),
      fun valid => ⟨fun agrees => ?_, fun carries _ => ?_⟩⟩
    · obtain ⟨authorized, hash, frame⟩ := agrees valid
      refine ⟨?_, authorized, fun reference loaded => ?_⟩
      · exact frame ▸ (heading.belongs authorized).2
      · cases (granted_eq authorized).symm.trans loaded
        exact ⟨hash, frame⟩
    · have authorized : heading.railWriteAuthorized = true := carries.authorized
      exact ⟨authorized, carries.loaded _ (granted_eq authorized)⟩
  unfold installSession
  simp only
  split_ifs with compares invalid other
  · have free : self.authority.valid = false := by simpa using invalid
    have authorized := (Bool.and_eq_true_iff.mp compares).2
    refine sound_initializeFrom free (fun valid => absurd valid (by simp [free])) ?_
      (granted_eq authorized)
    exact fun _ => (heading.belongs authorized).2.symm
  · -- The reference of the session is another one, or one for another frame.
    refine sound_of_refused verified ?_ rfl
    refine ⟨fun agrees => ?_, fun free valid => absurd (valid.symm.trans free) (by simp)⟩
    obtain ⟨-, hash, frame⟩ := agrees (by simpa using invalid)
    exact absurd other (by simp [hash, frame])
  · exact kept
  · exact kept

theorem Sound.step (held : self.Sound past) (call : MapBindingCall) :
    (MapBinding.step settings self call).1.Sound (⟨self, call⟩ :: past) := by
  cases call with
  | restore heading => exact held.restore heading
  | loadCloud generated => exact sound_of_refused held.verified Iff.rfl rfl
  | loadSession heading => exact held.session heading
  | save succeeds => exact ⟨held.verified, held.free, held.held⟩

theorem sound_run (settings : YawSettings) (generated : MapUuid) :
    ∀ calls, ((mapBinding settings generated).run calls).Sound
      ((mapBinding settings generated).trace calls) :=
  (mapBinding settings generated).run_invariant (sound_start generated)
    fun _ _ call held => held.step call

theorem saved_heading {succeeds : Bool} {saved : SavedHeading}
    (written : self.saveMapSessionAtomic settings succeeds = some saved) :
    saved.mapFrameUuid = self.mapFrameUuid ∧
      saved.yawReference.verified =
        (self.authority.valid && self.authority.reference.verified) := by
  unfold saveMapSessionAtomic at written
  split_ifs at written
  unfold saveAtomic at written
  simp only at written
  -- The reference of the request is the one of the authority, or no reference.
  have verified : (self.requestHeading settings).yawReference.verified
      = (self.authority.valid && self.authority.reference.verified) := by
    unfold requestHeading
    cases self.authority.valid <;> rfl
  split_ifs at written
  · split at written
    · cases written
      exact ⟨rfl, verified⟩
    · cases written
  · cases written
    exact ⟨rfl, verified⟩

/-- A save keeps the binding of the reference exactly after a load that came with it. -/
theorem save_keeps_binding_iff (settings : YawSettings) (generated : MapUuid)
    {calls : List MapBindingCall} {succeeds : Bool} {saved : SavedHeading}
    (written : ((mapBinding settings generated).run calls).saveMapSessionAtomic settings succeeds
      = some saved) :
    ((mapBinding settings generated).run calls).KeepsBinding saved ↔
      Bound ((mapBinding settings generated).trace calls) := by
  have sound := sound_run settings generated calls
  obtain ⟨frame, verified⟩ := saved_heading written
  unfold KeepsBinding
  rw [verified, frame]
  cases valid : ((mapBinding settings generated).run calls).authority.valid with
  | false => simp [sound.free valid]
  | true =>
    rw [sound.held valid, (sound.verified valid).1]
    -- A map that carries the reference has its frame.
    exact ⟨fun kept => (kept rfl).2, fun carries _ => ⟨carries.frame, carries⟩⟩

def siteReference : RailYawReference :=
  let unsigned : RailYawReference := {
    verified := true, mapFrameUuid := "site", referenceUuid := "survey" }
  { unsigned with referenceHash := unsigned.semanticYawReferenceHash fun _ => "0" }

def siteSettings : YawSettings where
  legacy := false
  configured := siteReference
  mapFrame := "map"
  baseFrame := "base_link"
  formatYaw _ := "0"

def siteSession : SessionHeading where
  mapFrameUuid := "site"
  yawReference := siteReference
  railWriteAuthorized := true
  belongs _ := ⟨rfl, rfl⟩
  framed := by decide

theorem site_session_keeps_binding :
    ∃ saved, ((mapBinding siteSettings ⟨"fresh", by decide⟩).run
        [.loadSession siteSession]).saveMapSessionAtomic siteSettings true = some saved ∧
      ((mapBinding siteSettings ⟨"fresh", by decide⟩).run
        [.loadSession siteSession]).KeepsBinding saved := by
  have written : (((mapBinding siteSettings ⟨"fresh", by decide⟩).run
      [.loadSession siteSession]).saveMapSessionAtomic siteSettings true).isSome = true := by
    decide +kernel
  obtain ⟨saved, same⟩ := Option.isSome_iff_exists.mp written
  refine ⟨saved, same, (save_keeps_binding_iff siteSettings ⟨"fresh", by decide⟩ same).mpr ?_⟩
  intro valid
  exact ⟨rfl, by decide +kernel, by decide +kernel⟩

theorem cloud_save_rebinds_reference :
    ¬∀ (settings : YawSettings) (generated : MapUuid) (calls : List MapBindingCall)
      (succeeds : Bool) (saved : SavedHeading),
      ((mapBinding settings generated).run calls).saveMapSessionAtomic settings succeeds
        = some saved → ((mapBinding settings generated).run calls).KeepsBinding saved := by
  intro keeps
  let run := (mapBinding siteSettings ⟨"fresh", by decide⟩).run
    [.loadCloud ⟨"cloud", by decide⟩]
  have written : (run.saveMapSessionAtomic siteSettings true).isSome = true := by decide +kernel
  obtain ⟨saved, same⟩ := Option.isSome_iff_exists.mp written
  obtain ⟨frame, verified⟩ := saved_heading same
  -- The heading is verified, and its frame is the one of the cloud.
  have holds : (run.authority.valid && run.authority.reference.verified) = true := by
    decide +kernel
  have issued := (keeps _ _ _ _ saved same (verified.trans holds)).1
  rw [frame] at issued
  exact absurd issued (by decide +kernel)

end MapBinding
end NdtSlam
