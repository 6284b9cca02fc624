import NdtSlam.Foundation.Scalar

/-! The state machine that keeps, replaces and expires the published alarm code. -/

namespace NdtSlam

structure AlarmResult where
  code : Int := 30
  changed : Bool := false
  reason : String := "startup_not_ready"

structure AlarmStateMachine where
  staleTimeoutSec : Scalar
  currentCode : Int := 30
  hasStatus : Bool := false
  hasWallObservation : Bool := false
  hasSourceStamp : Bool := false
  lastReceiptWallSec : Scalar := 0
  lastObservedWallSec : Scalar := 0
  lastSourceStampSec : Scalar := 0
  lastSourceProgressWallSec : Scalar := 0

namespace AlarmStateMachine

def clear : Int := 14
def level1Warning : Int := 17
def level2Warning : Int := 18
def anomalyReview : Int := 29
def systemNotReady : Int := 30
def localizationInvalid : Int := 31
def gravityInvalid : Int := 32
def cargoInvalid : Int := 33
def obstacleInvalid : Int := 34
def internalError : Int := 35

def timeEpsilonSec : Scalar := 1e-6

def sanitizePositive (value fallback : Scalar) : Scalar :=
  if value.isFinite && 0 < value then value else fallback

def initial (staleTimeoutSec : Scalar) : AlarmStateMachine :=
  { staleTimeoutSec := sanitizePositive staleTimeoutSec 0.8 }

def isAllowedCode (code : Int) : Bool :=
  -- Besides the official codes, all fault codes may be requested.
  code == clear || code == level1Warning || code == level2Warning || code == anomalyReview ||
    (systemNotReady ≤ code && code ≤ internalError)

variable (self : AlarmStateMachine)

def wallRolledBack (wallNowSec : Scalar) : Bool :=
  !wallNowSec.isFinite || wallNowSec < 0 ||
    (self.hasWallObservation && wallNowSec + timeEpsilonSec < self.lastObservedWallSec)

def observeWallClock (wallNowSec : Scalar) : AlarmStateMachine × Bool :=
  -- An unusable reading leaves no trace, not even as the last one observed.
  if !wallNowSec.isFinite || wallNowSec < 0 then (self, false)
  -- After a jump back the clock is followed from its new reading on.
  else if self.wallRolledBack wallNowSec then
    ({ self with lastObservedWallSec := wallNowSec }, false)
  else
    ({ self with hasWallObservation := true, lastObservedWallSec := wallNowSec }, true)

def forceCode (code : Int) (reason : String) : AlarmStateMachine × AlarmResult :=
  ({ self with currentCode := code }, ⟨code, self.currentCode != code, reason⟩)

variable (sourceStampSec : Scalar)

def invalidSourceStamp : Bool :=
  !sourceStampSec.isFinite || sourceStampSec ≤ 0

def sourceRolledBack : Bool :=
  self.hasSourceStamp && sourceStampSec + timeEpsilonSec < self.lastSourceStampSec

def sourceStampAdvanced : Bool :=
  !self.hasSourceStamp || self.lastSourceStampSec + timeEpsilonSec < sourceStampSec

def expired (wallNowSec sinceSec : Scalar) : Bool :=
  self.staleTimeoutSec ≤ wallNowSec - sinceSec + timeEpsilonSec

def recordProgress (wallNowSec sourceStampSec : Scalar) : AlarmStateMachine :=
  { self with
    hasSourceStamp := true
    lastSourceStampSec := sourceStampSec
    lastSourceProgressWallSec := wallNowSec }

def settle (requestedCode : Int) (wallNowSec : Scalar) (advanced : Bool) :
    AlarmStateMachine × AlarmResult :=
  -- A source that has stopped is stale, however fresh the receipt is.
  if self.expired wallNowSec self.lastSourceProgressWallSec then
    self.forceCode systemNotReady "source_stamp_stale"
  else if !isAllowedCode requestedCode then
    self.forceCode internalError "unknown_status_code"
  else if !advanced then
    -- A retransmitted stamp keeps the source alive without changing the code.
    (self, ⟨self.currentCode, false, "duplicate_source_stamp"⟩)
  else
    ({ self with currentCode := requestedCode },
      ⟨requestedCode, self.currentCode != requestedCode, "fresh_status"⟩)

def ingest (requestedCode : Int) (wallNowSec sourceStampSec : Scalar) :
    AlarmStateMachine × AlarmResult :=
  match self.observeWallClock wallNowSec with
  | (observed, false) => observed.forceCode systemNotReady "wall_time_rollback"
  | (observed, true) =>
    -- The receipt counts for the heartbeat, whatever the status says.
    let received := { observed with hasStatus := true, lastReceiptWallSec := wallNowSec }
    if invalidSourceStamp sourceStampSec then
      received.forceCode internalError "invalid_source_stamp"
    else if received.sourceRolledBack sourceStampSec then
      -- The new origin of the source clock is taken over before the code is forced.
      (received.recordProgress wallNowSec sourceStampSec).forceCode systemNotReady
        "source_time_rollback"
    else if received.sourceStampAdvanced sourceStampSec then
      (received.recordProgress wallNowSec sourceStampSec).settle requestedCode wallNowSec true
    else
      received.settle requestedCode wallNowSec false

def tick (wallNowSec : Scalar) : AlarmStateMachine × AlarmResult :=
  match self.observeWallClock wallNowSec with
  | (observed, false) => observed.forceCode systemNotReady "wall_time_rollback"
  | (observed, true) =>
    -- The checks run from the most basic one on, and each of them forces the stale code.
    if !observed.hasStatus then
      observed.forceCode systemNotReady "no_status"
    else if observed.expired wallNowSec observed.lastReceiptWallSec then
      observed.forceCode systemNotReady "status_stale"
    else if observed.expired wallNowSec observed.lastSourceProgressWallSec then
      observed.forceCode systemNotReady "source_stamp_stale"
    else
      (observed, ⟨observed.currentCode, false, "heartbeat"⟩)

end AlarmStateMachine
end NdtSlam
