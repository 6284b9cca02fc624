import NdtSlam.Operations.ServiceSupervisor

/-! The exit code of the service follows the last status, where that status has been read. -/

namespace NdtSlam

def writtenAt (event : Event ServiceState ServiceStep) : Option RuntimeStatus :=
  match event.call with
  | .childWrites status => if event.before.childExit.isNone then some status else none
  | .childExits _ => none
  | .supervises => none

def written (past : List (Event ServiceState ServiceStep)) : List RuntimeStatus :=
  past.filterMap writtenAt

variable {past : List (Event ServiceState ServiceStep)} {event : Event ServiceState ServiceStep}

theorem written_cons_of_none (silent : writtenAt event = none) :
    written (event :: past) = written past := by
  simp [written, silent]

theorem written_cons_of_some {status : RuntimeStatus} (writes : writtenAt event = some status) :
    written (event :: past) = status :: written past := by
  simp [written, writes]

section Runs

variable [FailureText]

def RuntimeStatus.failure (status : RuntimeStatus) : String :=
  FailureText.normalize status.localizationFailureClass

def ServiceState.Renewed (state : ServiceState) : Prop :=
  statusIsFresh (readStatusSnapshot state.file) state.baseline = true

structure ServiceState.UpToDate (state : ServiceState) : Prop where
  read : state.Renewed → state.freshSnapshot.map (·.failureClass) =
    (readStatusSnapshot state.file).map (·.failureClass)
  ownCode : state.childExit = some 75 → ∀ status, state.file = some status → state.Renewed →
    status.failure ∈ recoverableFailures ++ nonrecoverableFailures

/-- A step that keeps the supervisor's knowledge apart from what it does not know. -/
def Observed (event : Event ServiceState ServiceStep) : Prop :=
  match event.call with
  | .childWrites status =>
    statusIsFresh (readStatusSnapshot (some status)) event.before.baseline = true
  | .childExits _ => True
  | .supervises =>
    event.before.phase = .polling → event.before.childExit.isSome → event.before.UpToDate

def ExitFollows (last : Option RuntimeStatus) (childReturnCode exitCode : Int) : Prop :=
  (∀ status, last = some status → status.failure ∈ nonrecoverableFailures → exitCode = 78) ∧
    (exitCode = 75 → ∃ status, last = some status ∧ status.failure ∈ recoverableFailures ∧
      childReturnCode ≠ 0)

/-! ### How one end is classified -/

variable {childReturnCode : Int}

theorem classifiedExitCode_nonrecoverable {failureClass : String} {freshStatusSeen : Bool}
    (nonrecoverable : FailureText.normalize failureClass ∈ nonrecoverableFailures) :
    classifiedExitCode childReturnCode failureClass freshStatusSeen = 78 := by
  unfold classifiedExitCode
  rw [if_pos (by simpa using nonrecoverable)]

theorem classifiedExitCode_recoverable {failureClass : String} {freshStatusSeen : Bool}
    (code : classifiedExitCode childReturnCode failureClass freshStatusSeen = 75) :
    FailureText.normalize failureClass ∉ nonrecoverableFailures ∧ childReturnCode ≠ 0 ∧
      (FailureText.normalize failureClass ∈ recoverableFailures ∨
        childReturnCode = 75 ∧ freshStatusSeen = true) := by
  unfold classifiedExitCode at code
  dsimp only at code
  split_ifs at code with nonrecoverable recoverable unseen
  · omega
  · -- The child has failed with a class that it may recover from.
    have both : childReturnCode ≠ 0 ∧
        FailureText.normalize failureClass ∈ recoverableFailures := by simpa using recoverable
    exact ⟨by simpa using nonrecoverable, both.1, .inl both.2⟩
  · omega
  · -- The code of the child is passed on, and then a status must have been seen.
    have failed : childReturnCode ≠ 0 := by omega
    have seen : freshStatusSeen = true := by
      cases freshStatusSeen with
      | true => rfl
      | false => simp [failed] at unseen
    exact ⟨by simpa using nonrecoverable, failed, .inr ⟨code, seen⟩⟩

/-! ### What is known in every run -/

structure Attributed (leftover : Option RuntimeStatus)
    (past : List (Event ServiceState ServiceStep)) (state : ServiceState) : Prop where
  baseline : state.baseline = readStatusSnapshot leftover
  file : state.file = (written past).head?.or leftover
  freshSnapshot : ∀ snapshot, state.freshSnapshot = some snapshot →
    ∃ status ∈ written past, readStatusSnapshot (some status) = some snapshot

variable {leftover : Option RuntimeStatus} {state : ServiceState}

theorem Attributed.renewed (attributed : Attributed leftover past state) (renewed : state.Renewed) :
    ∃ status, (written past).head? = some status ∧ state.file = some status := by
  have file := attributed.file
  cases last : (written past).head? with
  | some status => exact ⟨status, rfl, by rw [file, last]; rfl⟩
  | none =>
    -- The leftover status is the one it is compared with.
    rw [last, Option.none_or] at file
    unfold ServiceState.Renewed at renewed
    rw [file, attributed.baseline] at renewed
    cases leftover with
    | none => simp [readStatusSnapshot, statusIsFresh] at renewed
    | some status => simp [readStatusSnapshot, statusIsFresh] at renewed

namespace ServiceState

theorem supervise_keeps (state : ServiceState) :
    state.supervise.file = state.file ∧ state.supervise.baseline = state.baseline := by
  unfold supervise
  cases phase : state.phase with
  | reading =>
    dsimp only
    unfold read
    cases readStatusSnapshot state.file with
    | none => exact ⟨rfl, rfl⟩
    | some snapshot =>
      dsimp only
      split <;> exact ⟨rfl, rfl⟩
  | polling =>
    dsimp only
    unfold poll
    cases state.childExit with
    | none => exact ⟨rfl, rfl⟩
    | some code => exact ⟨rfl, rfl⟩
  | sleeping => exact ⟨rfl, rfl⟩
  | terminating current => exact ⟨rfl, rfl⟩
  | returned exitCode => exact ⟨rfl, rfl⟩

theorem supervise_freshSnapshot (state : ServiceState) :
    state.supervise.freshSnapshot = state.freshSnapshot ∨
      state.Renewed ∧ state.supervise.freshSnapshot = readStatusSnapshot state.file := by
  unfold supervise
  cases phase : state.phase with
  | reading =>
    dsimp only
    unfold read Renewed
    cases found : readStatusSnapshot state.file with
    | none => exact .inl rfl
    | some snapshot =>
      dsimp only
      by_cases fresh : statusIsFresh (some snapshot) state.baseline = true
      · rw [if_pos fresh]
        exact .inr ⟨fresh, rfl⟩
      · rw [if_neg fresh]
        exact .inl rfl
  | polling =>
    dsimp only
    unfold poll
    cases state.childExit with
    | none => exact .inl rfl
    | some code => exact .inl rfl
  | sleeping => exact .inl rfl
  | terminating current => exact .inl rfl
  | returned exitCode => exact .inl rfl

end ServiceState

theorem Attributed.step (attributed : Attributed leftover past state) (call : ServiceStep) :
    Attributed leftover (⟨state, call⟩ :: past) (state.step call) := by
  cases call with
  | childWrites status =>
    by_cases alive : state.childExit.isNone = true
    · -- The new status is the last one, and nothing has been read meanwhile.
      have writes : writtenAt ⟨state, .childWrites status⟩ = some status := if_pos alive
      have next : state.step (.childWrites status) = { state with file := some status } :=
        if_pos alive
      rw [next]
      refine ⟨attributed.baseline, ?_, ?_⟩
      · rw [written_cons_of_some writes]
        rfl
      · intro snapshot known
        obtain ⟨earlier, member, reads⟩ := attributed.freshSnapshot snapshot known
        rw [written_cons_of_some writes]
        exact ⟨earlier, List.mem_cons_of_mem _ member, reads⟩
    · have silent : writtenAt ⟨state, .childWrites status⟩ = none := if_neg alive
      have next : state.step (.childWrites status) = state := if_neg alive
      rw [next]
      exact ⟨attributed.baseline, by rw [written_cons_of_none silent]; exact attributed.file,
        by rw [written_cons_of_none silent]; exact attributed.freshSnapshot⟩
  | childExits code =>
    have kept : (state.step (.childExits code)).baseline = state.baseline ∧
        (state.step (.childExits code)).file = state.file ∧
        (state.step (.childExits code)).freshSnapshot = state.freshSnapshot := by
      unfold ServiceState.step
      dsimp only
      split_ifs <;> exact ⟨rfl, rfl, rfl⟩
    have silent : written (⟨state, .childExits code⟩ :: past) = written past :=
      written_cons_of_none rfl
    exact ⟨kept.1.trans attributed.baseline,
      by rw [silent]; exact kept.2.1.trans attributed.file,
      by rw [silent, kept.2.2]; exact attributed.freshSnapshot⟩
  | supervises =>
    obtain ⟨file, baseline⟩ := state.supervise_keeps
    have silent : written (⟨state, .supervises⟩ :: past) = written past :=
      written_cons_of_none rfl
    refine ⟨baseline.trans attributed.baseline, ?_, ?_⟩
    · rw [silent]
      exact file.trans attributed.file
    · intro snapshot known
      rw [silent]
      rcases state.supervise_freshSnapshot with kept | ⟨renewed, reads⟩
      · exact attributed.freshSnapshot snapshot (kept.symm.trans known)
      · -- A renewed file holds the last status that the child has written.
        obtain ⟨status, last, holds⟩ := attributed.renewed renewed
        refine ⟨status, List.mem_of_head? last, ?_⟩
        rw [← holds]
        exact reads.symm.trans known

theorem attributed_run (leftover : Option RuntimeStatus) (steps : List ServiceStep) :
    Attributed leftover ((serviceMachine leftover).trace steps)
      ((serviceMachine leftover).run steps) := by
  refine (serviceMachine leftover).run_invariant ?_ ?_ steps
  · exact ⟨rfl, rfl, fun snapshot known => by cases known⟩
  · intro past state call holds
    exact holds.step call

/-! ### What an observed run returns -/

theorem Attributed.last_read {status : RuntimeStatus}
    (attributed : Attributed leftover past state)
    (distinct : ∀ status ∈ written past,
      statusIsFresh (readStatusSnapshot (some status)) (readStatusSnapshot leftover) = true)
    (read : state.UpToDate) (last : (written past).head? = some status) :
    state.file = some status ∧ state.Renewed ∧
      state.freshSnapshot.map (·.failureClass) = some status.failure := by
  have file : state.file = some status := by rw [attributed.file, last]; rfl
  have renewed : state.Renewed := by
    unfold ServiceState.Renewed
    rw [file, attributed.baseline]
    exact distinct status (List.mem_of_head? last)
  refine ⟨file, renewed, ?_⟩
  rw [read.read renewed, file]
  rfl

theorem Attributed.poll_follows
    (attributed : Attributed leftover past state)
    (distinct : ∀ status ∈ written past,
      statusIsFresh (readStatusSnapshot (some status)) (readStatusSnapshot leftover) = true)
    (read : state.UpToDate) (exited : state.childExit = some childReturnCode) :
    ExitFollows (written past).head? childReturnCode
      (classifiedExitCode childReturnCode
        ((state.freshSnapshot.map (·.failureClass)).getD "") state.freshSnapshot.isSome) := by
  constructor
  · intro status last nonrecoverable
    -- The class that has been read is the one of the last status.
    obtain ⟨-, -, known⟩ := attributed.last_read distinct read last
    apply classifiedExitCode_nonrecoverable
    rw [known, Option.getD_some]
    unfold RuntimeStatus.failure at nonrecoverable ⊢
    rwa [FailureText.normalize_normalize]
  · intro code
    obtain ⟨notNonrecoverable, failed, reason⟩ := classifiedExitCode_recoverable code
    cases last : (written past).head? with
    | some status =>
      obtain ⟨file, renewed, known⟩ := attributed.last_read distinct read last
      have normal : FailureText.normalize status.failure = status.failure :=
        FailureText.normalize_normalize _
      rw [known, Option.getD_some, normal] at notNonrecoverable reason
      refine ⟨status, rfl, ?_, failed⟩
      rcases reason with recoverable | ⟨own, -⟩
      · exact recoverable
      · -- The child may use this code itself, but then only with a class that decides it.
        have decided := read.ownCode (by rw [exited, own]) status file renewed
        exact (List.mem_append.mp decided).resolve_right notNonrecoverable
    | none =>
      -- Nothing was written, so nothing has been read either.
      exfalso
      have unread : state.freshSnapshot = none := by
        cases known : state.freshSnapshot with
        | none => rfl
        | some snapshot =>
          obtain ⟨status, member, -⟩ := attributed.freshSnapshot snapshot known
          rw [List.head?_eq_none_iff.mp last] at member
          cases member
      rw [unread] at reason
      rcases reason with recoverable | ⟨-, seen⟩
      · rw [Option.map_none, Option.getD_none, FailureText.normalize_empty] at recoverable
        exact absurd recoverable (by decide)
      · cases seen

structure Followed (leftover : Option RuntimeStatus)
    (past : List (Event ServiceState ServiceStep)) (state : ServiceState) : Prop where
  attributed : Attributed leftover past state
  distinct : ∀ status ∈ written past,
    statusIsFresh (readStatusSnapshot (some status)) (readStatusSnapshot leftover) = true
  returned : ∀ exitCode, state.phase = .returned exitCode →
    ∃ childReturnCode, state.childExit = some childReturnCode ∧
      ExitFollows (written past).head? childReturnCode exitCode

theorem Followed.supervise {exitCode : Int} (followed : Followed leftover past state)
    (observed : Observed ⟨state, .supervises⟩) (ends : state.supervise.phase = .returned exitCode) :
    ∃ childReturnCode, state.supervise.childExit = some childReturnCode ∧
      ExitFollows (written past).head? childReturnCode exitCode := by
  -- Only a poll and the end of a termination return; a code once returned stays.
  unfold ServiceState.supervise at ends ⊢
  cases phase : state.phase with
  | reading =>
    rw [phase] at ends
    dsimp only at ends
    unfold ServiceState.read at ends
    cases found : readStatusSnapshot state.file with
    | none =>
      rw [found] at ends
      cases ends
    | some snapshot =>
      rw [found] at ends
      dsimp only at ends
      split_ifs at ends
  | polling =>
    rw [phase] at ends
    dsimp only at ends ⊢
    unfold ServiceState.poll at ends ⊢
    cases exited : state.childExit with
    | none =>
      rw [exited] at ends
      cases ends
    | some childReturnCode =>
      rw [exited] at ends
      cases ends
      exact ⟨childReturnCode, rfl, followed.attributed.poll_follows followed.distinct
        (observed phase (by simp [exited])) exited⟩
  | sleeping =>
    rw [phase] at ends
    cases ends
  | terminating current =>
    rw [phase] at ends
    cases ends
    exact ⟨_, rfl, fun _ _ _ => rfl, fun code => absurd code (by decide)⟩
  | returned earlier =>
    rw [phase] at ends
    exact followed.returned exitCode ends

theorem Followed.step (followed : Followed leftover past state) {call : ServiceStep}
    (observed : Observed ⟨state, call⟩) :
    Followed leftover (⟨state, call⟩ :: past) (state.step call) := by
  refine ⟨followed.attributed.step call, ?_, ?_⟩
  · -- Only a new status has to be compared with the leftover one.
    cases writes : writtenAt ⟨state, call⟩ with
    | none =>
      rw [written_cons_of_none writes]
      exact followed.distinct
    | some status =>
      rw [written_cons_of_some writes]
      refine List.forall_mem_cons.mpr ⟨?_, followed.distinct⟩
      cases call with
      | childWrites written =>
        have same : written = status := by
          unfold writtenAt at writes
          dsimp only at writes
          split_ifs at writes
          exact Option.some.inj writes
        rw [← followed.attributed.baseline, ← same]
        exact observed
      | childExits code => cases writes
      | supervises => cases writes
  · intro exitCode ends
    cases call with
    | childWrites status =>
      by_cases alive : state.childExit.isNone = true
      · -- While the child lives, nothing has been returned.
        have next : state.step (.childWrites status) = { state with file := some status } :=
          if_pos alive
        rw [next] at ends
        obtain ⟨code, exited, -⟩ := followed.returned exitCode ends
        simp [exited] at alive
      · have silent : writtenAt ⟨state, .childWrites status⟩ = none := if_neg alive
        have next : state.step (.childWrites status) = state := if_neg alive
        rw [next] at ends ⊢
        rw [written_cons_of_none silent]
        exact followed.returned exitCode ends
    | childExits code =>
      have silent : writtenAt ⟨state, .childExits code⟩ = none := rfl
      by_cases alive : state.childExit.isNone = true
      · have next : state.step (.childExits code) = { state with childExit := some code } :=
          if_pos alive
        rw [next] at ends
        obtain ⟨earlier, exited, -⟩ := followed.returned exitCode ends
        simp [exited] at alive
      · have next : state.step (.childExits code) = state := if_neg alive
        rw [next] at ends ⊢
        rw [written_cons_of_none silent]
        exact followed.returned exitCode ends
    | supervises =>
      have silent : writtenAt ⟨state, .supervises⟩ = none := rfl
      rw [written_cons_of_none silent]
      exact followed.supervise observed ends

theorem followed_run {steps : List ServiceStep}
    (observed : ∀ event ∈ (serviceMachine leftover).trace steps, Observed event) :
    Followed leftover ((serviceMachine leftover).trace steps)
      ((serviceMachine leftover).run steps) := by
  -- The run and its trace grow by the same step.
  induction steps with
  | nil =>
    refine ⟨attributed_run leftover [], ?_, ?_⟩
    · intro status member
      cases member
    · intro exitCode ends
      cases ends
  | cons step older ih =>
    obtain ⟨now, past⟩ := List.forall_mem_cons.mp observed
    exact (ih past).step now

/-! ### The supervisor returns -/

theorem ServiceState.returns_of_exited (exited : state.childExit.isSome) :
    ∃ exitCode, state.supervise.supervise.supervise.phase = .returned exitCode := by
  obtain ⟨code, ended⟩ := Option.isSome_iff_exists.mp exited
  -- Whatever a returned supervisor does, it stays where it is.
  have stays : ∀ {later : ServiceState} {exitCode : Int}, later.phase = .returned exitCode →
      later.supervise.phase = .returned exitCode := by
    intro later exitCode returned
    unfold supervise
    rw [returned]
    exact returned
  have polled : ∀ {later : ServiceState}, later.phase = .polling → later.childExit = some code →
      ∃ exitCode, later.supervise.phase = .returned exitCode := by
    intro later polling gone
    unfold supervise
    rw [polling]
    dsimp only
    unfold poll
    rw [gone]
    exact ⟨_, rfl⟩
  have terminated : ∀ {later : ServiceState} {current : StatusSnapshot},
      later.phase = .terminating current → later.supervise.phase = .returned 78 := by
    intro later current ending
    unfold supervise
    rw [ending]
    rfl
  have twice : ∀ {later : ServiceState}, later.phase = .reading → later.childExit = some code →
      ∃ exitCode, later.supervise.supervise.phase = .returned exitCode := by
    intro later reading gone
    have next : later.supervise.childExit = some code ∧ (later.supervise.phase = .polling ∨
        ∃ current, later.supervise.phase = .terminating current) := by
      unfold supervise
      rw [reading]
      dsimp only
      unfold read
      cases readStatusSnapshot later.file with
      | none => exact ⟨gone, .inl rfl⟩
      | some snapshot =>
        dsimp only
        split_ifs
        · exact ⟨gone, .inr ⟨_, rfl⟩⟩
        · exact ⟨gone, .inl rfl⟩
        · exact ⟨gone, .inl rfl⟩
    rcases next.2 with polling | ⟨current, ending⟩
    · exact polled polling next.1
    · exact ⟨78, terminated ending⟩
  cases phase : state.phase with
  | reading =>
    obtain ⟨exitCode, returned⟩ := twice phase ended
    exact ⟨exitCode, stays returned⟩
  | polling =>
    obtain ⟨exitCode, returned⟩ := polled phase ended
    exact ⟨exitCode, stays (stays returned)⟩
  | sleeping =>
    have next : state.supervise = { state with phase := .reading } := by
      unfold supervise
      rw [phase]
    rw [next]
    exact twice rfl ended
  | terminating current => exact ⟨78, stays (stays (terminated phase))⟩
  | returned exitCode => exact ⟨exitCode, stays (stays (stays phase))⟩

/-- A service that is observed to its end returns an exit code that follows its last status. -/
theorem service_exit_follows_status (leftover : Option RuntimeStatus) (steps : List ServiceStep)
    (observed : ∀ event ∈ (serviceMachine leftover).trace steps, Observed event) :
    (∀ snapshot, ((serviceMachine leftover).run steps).freshSnapshot = some snapshot →
      ∃ status ∈ written ((serviceMachine leftover).trace steps),
        readStatusSnapshot (some status) = some snapshot) ∧
    (∀ exitCode, ((serviceMachine leftover).run steps).phase = .returned exitCode →
      ∃ childReturnCode, ((serviceMachine leftover).run steps).childExit = some childReturnCode ∧
        ExitFollows (written ((serviceMachine leftover).trace steps)).head? childReturnCode
          exitCode) ∧
    (((serviceMachine leftover).run steps).childExit.isSome → ∃ exitCode,
      ((serviceMachine leftover).run
        (.supervises :: .supervises :: .supervises :: steps)).phase = .returned exitCode) := by
  have followed := followed_run observed
  exact ⟨followed.attributed.freshSnapshot, followed.returned,
    fun exited => ServiceState.returns_of_exited exited⟩

end Runs

section Samples

abbrev plainFailureText : FailureText where
  normalize := fun text => text
  normalize_normalize := fun _ => rfl
  normalize_empty := rfl

attribute [local instance] plainFailureText

def seenDegradation : List ServiceStep :=
  [.supervises, .supervises, .childExits 1,
    .childWrites ⟨1, 7, "RECOVERABLE_TRACKING_DEGRADATION"⟩]

theorem service_exit_after_seen_degradation :
    ∃ childReturnCode, ((serviceMachine none).run seenDegradation).childExit
        = some childReturnCode ∧
      ExitFollows (written ((serviceMachine none).trace seenDegradation)).head? childReturnCode
        75 := by
  refine (service_exit_follows_status none seenDegradation ?_).2.1 75 (by decide)
  refine List.forall_mem_cons.mpr ⟨fun _ _ => ⟨fun _ => rfl, fun own => ?_⟩, ?_⟩
  · exact absurd own (by decide)
  refine List.forall_mem_cons.mpr ⟨fun polling => absurd polling (by decide), ?_⟩
  exact List.forall_mem_cons.mpr ⟨trivial, List.forall_mem_cons.mpr ⟨rfl, by simp [Machine.trace]⟩⟩

def missedMapIdentity : List ServiceStep :=
  [.supervises, .childExits 1, .childWrites ⟨2, 9, "NONRECOVERABLE_MAP_IDENTITY"⟩, .supervises,
    .childWrites ⟨1, 7, "RECOVERABLE_TRACKING_DEGRADATION"⟩]

/-- A failure that is written between the read and the poll does not decide the exit code. -/
theorem service_restarted_on_map_identity :
    ¬∀ (leftover : Option RuntimeStatus) (steps : List ServiceStep),
      (written ((serviceMachine leftover).trace steps)).Pairwise
          (fun later earlier => earlier.runtimeStatusSeq < later.runtimeStatusSeq) →
        ∀ exitCode childReturnCode,
          ((serviceMachine leftover).run steps).phase = .returned exitCode →
          ((serviceMachine leftover).run steps).childExit = some childReturnCode →
          ExitFollows (written ((serviceMachine leftover).trace steps)).head? childReturnCode
            exitCode := by
  intro follows
  have statuses : written ((serviceMachine none).trace missedMapIdentity) =
      [⟨2, 9, "NONRECOVERABLE_MAP_IDENTITY"⟩, ⟨1, 7, "RECOVERABLE_TRACKING_DEGRADATION"⟩] := rfl
  have returned := follows none missedMapIdentity (by simp [statuses]) 75 1 (by decide) (by decide)
  exact absurd (returned.1 ⟨2, 9, "NONRECOVERABLE_MAP_IDENTITY"⟩ rfl (by decide)) (by decide)

end Samples
end NdtSlam
