import NdtSlam.Foundation.History

/-! The supervisor that classifies how the localization service has ended. -/

namespace NdtSlam

class FailureText where
  normalize : String → String
  normalize_normalize : ∀ text, normalize (normalize text) = normalize text
  normalize_empty : normalize "" = ""

structure RuntimeStatus where
  runtimeStatusSeq : Int
  modifiedNs : Int
  localizationFailureClass : String

structure StatusSnapshot where
  sequence : Int
  modifiedNs : Int
  failureClass : String
  deriving DecidableEq

def recoverableFailures : List String := ["RECOVERABLE_TRACKING_DEGRADATION"]

def nonrecoverableFailures : List String :=
  ["NONRECOVERABLE_REFERENCE_CONFIG", "NONRECOVERABLE_MAP_IDENTITY", "INTERNAL_CONTRACT_ERROR"]

def statusIsFresh (current baseline : Option StatusSnapshot) : Bool :=
  match current, baseline with
  | none, _ => false
  | some _, none => true
  | some current, some baseline =>
    current.modifiedNs != baseline.modifiedNs || current.sequence != baseline.sequence

section Texts

variable [FailureText]

def readStatusSnapshot (file : Option RuntimeStatus) : Option StatusSnapshot :=
  file.map fun status =>
    ⟨status.runtimeStatusSeq, status.modifiedNs,
      FailureText.normalize status.localizationFailureClass⟩

def classifiedExitCode (childReturnCode : Int) (failureClass : String) (freshStatusSeen : Bool) :
    Int :=
  let failure := FailureText.normalize failureClass
  if nonrecoverableFailures.contains failure then 78
  else if childReturnCode ≠ 0 && recoverableFailures.contains failure then 75
  else if childReturnCode ≠ 0 && !freshStatusSeen then 78
  else childReturnCode

structure ExitEvidence where
  childReturnCode : Int
  failureClass : String
  serviceExitCode : Int
  runtimeStatusSeq : Int

inductive SupervisorPhase where
  | reading
  | polling
  | sleeping
  | terminating (current : StatusSnapshot)
  | returned (exitCode : Int)
  deriving DecidableEq

structure ServiceState where
  file : Option RuntimeStatus
  childExit : Option Int := none
  phase : SupervisorPhase := .reading
  baseline : Option StatusSnapshot
  freshSnapshot : Option StatusSnapshot := none
  evidence : Option ExitEvidence := none

inductive ServiceStep where
  | childWrites (status : RuntimeStatus)
  | childExits (code : Int)
  | supervises

namespace ServiceState

variable (self : ServiceState)

def read : ServiceState :=
  let current := readStatusSnapshot self.file
  match current with
  | none => { self with phase := .polling }
  | some snapshot =>
    if statusIsFresh current self.baseline then
      { self with
        freshSnapshot := current
        phase := if nonrecoverableFailures.contains snapshot.failureClass then
            .terminating snapshot
          else .polling }
    else { self with phase := .polling }

def poll : ServiceState :=
  match self.childExit with
  | none => { self with phase := .sleeping }
  | some childReturnCode =>
    let failureClass := (self.freshSnapshot.map (·.failureClass)).getD ""
    let exitCode := classifiedExitCode childReturnCode failureClass self.freshSnapshot.isSome
    { self with
      phase := .returned exitCode
      evidence := if childReturnCode ≠ 0 then
          some {
            childReturnCode
            failureClass := if failureClass = "" then "STARTUP_CONTRACT_UNCLASSIFIED"
              else failureClass
            serviceExitCode := exitCode
            runtimeStatusSeq := (self.freshSnapshot.map (·.sequence)).getD 0 }
        else self.evidence }

def terminate (current : StatusSnapshot) : ServiceState :=
  let code := self.childExit.getD (-9)
  { self with
    childExit := some code
    phase := .returned 78
    evidence := some {
      childReturnCode := code
      failureClass := current.failureClass
      serviceExitCode := 78
      runtimeStatusSeq := current.sequence } }

def supervise : ServiceState :=
  match self.phase with
  | .reading => self.read
  | .polling => self.poll
  | .sleeping => { self with phase := .reading }
  | .terminating current => self.terminate current
  | .returned _ => self

def step : ServiceStep → ServiceState
  | .childWrites status =>
    if self.childExit.isNone then { self with file := some status } else self
  | .childExits code =>
    if self.childExit.isNone then { self with childExit := some code } else self
  | .supervises => self.supervise

end ServiceState

def serviceMachine (leftover : Option RuntimeStatus) : Machine ServiceState ServiceStep Unit where
  start := { file := leftover, baseline := readStatusSnapshot leftover }
  step := fun state step => (state.step step, ())

end Texts
end NdtSlam
