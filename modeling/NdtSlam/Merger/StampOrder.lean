import NdtSlam.Merger.FrameAccounts

/-! Which callbacks keep the published clouds in the order of their stamps. -/

namespace NdtSlam

variable (past : List MergerEvent)

def publishedStamps : List Nat :=
  past.filterMap fun event => (publishedWork event).map (·.latestStamp)

def InStampOrder : Prop :=
  (publishedStamps past).Pairwise fun later earlier => earlier ≤ later

def DropsOutdated (merger : PointCloudMerger) : Prop :=
  ∀ stamp ∈ publishedStamps past, ∀ selected ∈ merger.queued, stamp ≤ selected.frame.stamp

/-- A callback that leaves no frame behind the published clouds. -/
def Timely (event : MergerEvent) : Prop :=
  match event.call with
  | .pointCloud _ stamp _ _ true => ∀ published ∈ publishedStamps past, published ≤ stamp
  | .pointCloud _ _ _ _ false => True
  | .timer now =>
    match event.before.publishedPair with
    | some pair =>
      (pair.frameA.stamp < pair.frameB.stamp →
        ∀ frame ∈ event.before.lidarA.queue.drop (pair.indexA + 1),
          frame.stamp ≠ pair.frameA.stamp) ∧
      (pair.frameB.stamp < pair.frameA.stamp →
        ∀ frame ∈ event.before.lidarB.queue.drop (pair.indexB + 1),
          frame.stamp ≠ pair.frameB.stamp)
    | none =>
      ∀ name front rest, event.before.fallbackLidar = some name →
        (event.before.lidar name).queue = front :: rest →
        ¬secondsSince front.receivedAt now < event.before.limits.staleTimeoutSec →
        ∀ frame ∈ (event.before.lidar (PointCloudMerger.otherLidar name)).queue,
          front.stamp ≤ frame.stamp

theorem PointCloudMerger.mem_queued {merger : PointCloudMerger} {selected : SelectedFrame} :
    selected ∈ merger.queued ↔ selected.frame ∈ (merger.lidar selected.lidarName).queue := by
  obtain ⟨name, frame⟩ := selected
  unfold queued queuedOf
  cases name <;> simp [lidar]

variable {past : List MergerEvent}

theorem dropsOutdated_iff {merger : PointCloudMerger} (name : LidarName) :
    DropsOutdated past merger ↔ ∀ stamp ∈ publishedStamps past,
      (∀ frame ∈ (merger.lidar name).queue, stamp ≤ frame.stamp) ∧
      ∀ frame ∈ (merger.lidar (PointCloudMerger.otherLidar name)).queue,
        stamp ≤ frame.stamp := by
  unfold DropsOutdated
  refine forall₂_congr fun stamp _ => ?_
  constructor
  · intro queued
    exact ⟨fun frame member => queued ⟨name, frame⟩ (PointCloudMerger.mem_queued.2 member),
      fun frame member => queued ⟨PointCloudMerger.otherLidar name, frame⟩
        (PointCloudMerger.mem_queued.2 member)⟩
  · rintro ⟨own, other⟩ ⟨which, frame⟩ member
    rw [PointCloudMerger.mem_queued] at member
    rcases PointCloudMerger.eq_or_other which name with rfl | rfl
    · exact own frame member
    · exact other frame member

variable {event : MergerEvent}

theorem publishedStamps_cons_of_none (silent : publishedWork event = none) :
    publishedStamps (event :: past) = publishedStamps past := by
  simp [publishedStamps, silent]

theorem publishedStamps_cons_of_some {work : PublishWork}
    (publishes : publishedWork event = some work) :
    publishedStamps (event :: past) = work.latestStamp :: publishedStamps past := by
  simp [publishedStamps, publishes]

section Steps

variable {limits : MergerLimits} {past : List MergerEvent} {merger : PointCloudMerger}

theorem enqueue_timely {name : LidarName} {stamp rosSequence : Nat} {receivedAt : Int}
    (clean : DropsOutdated past merger) :
    DropsOutdated (⟨merger, .pointCloud name stamp rosSequence receivedAt true⟩ :: past)
        (merger.enqueue name stamp rosSequence receivedAt) ↔
      ∀ published ∈ publishedStamps past, published ≤ stamp := by
  obtain ⟨queue, -, other, -, -⟩ :=
    @PointCloudMerger.enqueue_lidar merger name stamp rosSequence receivedAt
  rw [dropsOutdated_iff name, publishedStamps_cons_of_none rfl, other, queue]
  have before := (dropsOutdated_iff name).mp clean
  constructor
  · intro after published member
    -- The new frame is one of the queued ones.
    exact (after published member).1 _
      ((insertByStamp_perm _ _).mem_iff.mpr List.mem_cons_self)
  · intro timely published member
    refine ⟨?_, (before published member).2⟩
    intro frame among
    rcases List.mem_cons.mp ((insertByStamp_perm _ _).mem_iff.mp among) with rfl | among
    · exact timely published member
    · refine (before published member).1 frame ?_
      split_ifs at among
      · exact List.mem_of_mem_tail among
      · exact among

theorem outdated_iff_twin {first second other : CloudFrame} (behind : first.stamp ≤ other.stamp)
    (least : stampDistance first second ≤ stampDistance other second) :
    max first.stamp second.stamp ≤ other.stamp ↔
      (first.stamp < second.stamp → other.stamp ≠ first.stamp) := by
  unfold stampDistance at least
  omega

theorem stampDistance_comm (first second : CloudFrame) :
    stampDistance first second = stampDistance second first := by
  unfold stampDistance
  omega

theorem ByStamp.behind {queue : List CloudFrame} (ordered : ByStamp queue) {index : Nat}
    {frame : CloudFrame} (found : queue[index]? = some frame) :
    ∀ later ∈ queue.drop (index + 1), frame.stamp ≤ later.stamp := by
  rw [queue_split found] at ordered
  exact (List.pairwise_cons.mp (List.pairwise_append.mp ordered).2.1).1

section

variable (accounted : FramesAccounted limits past merger)
include accounted

section

variable (clean : DropsOutdated past merger)
include clean

theorem pair_timely {now : Int} {pair : FramePair} (closest : merger.publishedPair = some pair) :
    DropsOutdated (⟨merger, .timer now⟩ :: past) (merger.mergeAndPublish now).1 ↔
      Timely past ⟨merger, .timer now⟩ := by
  obtain ⟨work, outcome, contents⟩ :=
    @PointCloudMerger.mergeAndPublish_pair merger pair now accounted.hasPair closest
  obtain ⟨inA, inB, -, least⟩ := PointCloudMerger.publishedPair_some closest
  have publishes : publishedWork ⟨merger, .timer now⟩ = some work := by
    show (merger.mergeAndPublish now).2 = _
    rw [outcome]
  have stamp : work.latestStamp = max pair.frameA.stamp pair.frameB.stamp := by
    rw [contents]
    simp [PublishWork.latestStamp]
  have twinA : ∀ frame ∈ merger.lidarA.queue.drop (pair.indexA + 1),
      (max pair.frameA.stamp pair.frameB.stamp ≤ frame.stamp ↔
        (pair.frameA.stamp < pair.frameB.stamp → frame.stamp ≠ pair.frameA.stamp)) := by
    intro frame member
    exact outdated_iff_twin ((accounted.sorted .a).behind inA frame member)
      (least frame (List.mem_of_mem_drop member) _ (List.mem_of_getElem? inB))
  have twinB : ∀ frame ∈ merger.lidarB.queue.drop (pair.indexB + 1),
      (max pair.frameA.stamp pair.frameB.stamp ≤ frame.stamp ↔
        (pair.frameB.stamp < pair.frameA.stamp → frame.stamp ≠ pair.frameB.stamp)) := by
    intro frame member
    rw [max_comm]
    refine outdated_iff_twin ((accounted.sorted .b).behind inB frame member) ?_
    rw [stampDistance_comm, stampDistance_comm frame]
    exact least _ (List.mem_of_getElem? inA) frame (List.mem_of_mem_drop member)
  have before := (dropsOutdated_iff .a).mp clean
  unfold Timely
  dsimp only
  rw [closest, dropsOutdated_iff .a, publishedStamps_cons_of_some publishes,
    List.forall_mem_cons, stamp, outcome]
  constructor
  · rintro ⟨⟨ownA, ownB⟩, -⟩
    exact ⟨fun earlier frame member => (twinA frame member).mp (ownA frame member) earlier,
      fun earlier frame member => (twinB frame member).mp (ownB frame member) earlier⟩
  · rintro ⟨freeA, freeB⟩
    refine ⟨⟨fun frame member => (twinA frame member).mpr fun earlier =>
      freeA earlier frame member, fun frame member => (twinB frame member).mpr fun earlier =>
        freeB earlier frame member⟩, ?_⟩
    -- What is left was queued before.
    intro published member
    exact ⟨fun frame among => (before published member).1 frame (List.mem_of_mem_drop among),
      fun frame among => (before published member).2 frame (List.mem_of_mem_drop among)⟩

theorem single_timely {now : Int} (without : merger.publishedPair = none) :
    DropsOutdated (⟨merger, .timer now⟩ :: past) (merger.mergeAndPublish now).1 ↔
      Timely past ⟨merger, .timer now⟩ := by
  unfold Timely
  dsimp only
  rw [without]
  dsimp only
  rcases @PointCloudMerger.mergeAndPublish_single merger now accounted.hasPair without with
    ⟨idle, young⟩ | ⟨name, front, rest, chosen, queue, old, single⟩
  · have silent : publishedWork ⟨merger, .timer now⟩ = none := by
      show (merger.mergeAndPublish now).2 = _
      rw [idle]
    rw [idle]
    unfold DropsOutdated at clean ⊢
    rw [publishedStamps_cons_of_none silent]
    exact ⟨fun _ name front rest chosen queue old => absurd (young name front rest chosen queue) old,
      fun _ => clean⟩
  · have publishes : publishedWork ⟨merger, .timer now⟩ =
        some ⟨[⟨name, front⟩], .singleTimeout, -1, secondsSince front.receivedAt now⟩ := by
      show (merger.mergeAndPublish now).2 = _
      rw [single]
    have stamp : PublishWork.latestStamp
        ⟨[⟨name, front⟩], .singleTimeout, -1, secondsSince front.receivedAt now⟩ =
          front.stamp := by
      simp [PublishWork.latestStamp]
    have own : ((merger.mergeAndPublish now).1.lidar name).queue = rest := by
      rw [single]
      cases name <;> rfl
    have other : (merger.mergeAndPublish now).1.lidar (PointCloudMerger.otherLidar name) =
        merger.lidar (PointCloudMerger.otherLidar name) := by
      rw [single]
      cases name <;> rfl
    have before := (dropsOutdated_iff name).mp clean
    have ordered := accounted.sorted name
    rw [queue] at ordered before
    rw [dropsOutdated_iff name, publishedStamps_cons_of_some publishes, List.forall_mem_cons,
      stamp, own, other]
    constructor
    · rintro ⟨⟨-, others⟩, -⟩ which first remaining same found _
      -- The oldest frame of the chosen lidar is the one that is published.
      obtain rfl := Option.some.inj (chosen.symm.trans same)
      obtain ⟨rfl, -⟩ := List.cons.inj (queue.symm.trans found)
      exact others
    · intro free
      refine ⟨⟨(List.pairwise_cons.mp ordered).1, free name front rest chosen queue old⟩, ?_⟩
      intro published member
      exact ⟨fun frame among => (before published member).1 frame (List.mem_cons_of_mem _ among),
        (before published member).2⟩

theorem step_timely (call : MergerCall) :
    DropsOutdated (⟨merger, call⟩ :: past) ((mergerMachine limits).step merger call).1 ↔
      Timely past ⟨merger, call⟩ := by
  cases call with
  | pointCloud name stamp rosSequence receivedAt hasPoints =>
    cases hasPoints with
    | true => exact enqueue_timely clean
    | false =>
      -- A cloud without points changes no queue.
      refine ⟨fun _ => trivial, fun _ => ?_⟩
      intro published member selected queued
      rw [publishedStamps_cons_of_none rfl] at member
      exact clean published member selected queued
  | timer now =>
    cases closest : merger.publishedPair with
    | some pair => exact pair_timely accounted clean closest
    | none => exact single_timely accounted clean closest

theorem latestStamp_of_dropsOutdated {call : MergerCall} {work : PublishWork}
    (publishes : publishedWork ⟨merger, call⟩ = some work) :
    ∀ stamp ∈ publishedStamps past, stamp ≤ work.latestStamp := by
  intro stamp member
  cases call with
  | pointCloud => cases publishes
  | timer now =>
    have outcome : (merger.mergeAndPublish now).2 = some work := publishes
    cases closest : merger.publishedPair with
    | some pair =>
      obtain ⟨contents, result, rfl⟩ :=
        PointCloudMerger.mergeAndPublish_pair accounted.hasPair closest
      obtain ⟨inA, -⟩ := PointCloudMerger.publishedPair_some closest
      rw [result] at outcome
      obtain rfl := Option.some.inj outcome
      have queued : stamp ≤ pair.frameA.stamp := clean stamp member ⟨.a, pair.frameA⟩
        (PointCloudMerger.mem_queued.2 (List.mem_of_getElem? inA))
      simp only [PublishWork.latestStamp, List.foldl_cons, List.foldl_nil]
      omega
    | none =>
      rcases PointCloudMerger.mergeAndPublish_single accounted.hasPair closest with
        ⟨idle, -⟩ | ⟨name, front, rest, -, queue, -, single⟩
      · rw [idle] at outcome
        cases outcome
      · rw [single] at outcome
        obtain rfl := Option.some.inj outcome
        have queued : stamp ≤ front.stamp := clean stamp member ⟨name, front⟩
          (PointCloudMerger.mem_queued.2 (by rw [queue]; exact List.mem_cons_self))
        simp only [PublishWork.latestStamp, List.foldl_cons, List.foldl_nil]
        omega

end

end

def Throughout (holds : List MergerEvent → MergerEvent → Prop) (past : List MergerEvent) : Prop :=
  ∀ newer event older, past = newer ++ event :: older → holds older event

theorem throughout_cons {holds : List MergerEvent → MergerEvent → Prop} :
    Throughout holds (event :: past) ↔ holds past event ∧ Throughout holds past := by
  constructor
  · intro all
    exact ⟨all [] event past rfl, fun newer other older split =>
      all (event :: newer) other older (by rw [split]; rfl)⟩
  · rintro ⟨last, rest⟩ newer other older split
    -- Either the callback is the last one, or it lies in the rest.
    cases newer with
    | nil =>
      obtain ⟨rfl, rfl⟩ := List.cons.inj split
      exact last
    | cons head others =>
      obtain ⟨-, split⟩ := List.cons.inj split
      exact rest others other older split

def PublishesInOrder (limits : MergerLimits) (calls : List MergerCall) : Prop :=
  InStampOrder ((mergerMachine limits).trace calls) ∧
    ∀ newer earlier, calls = newer ++ earlier →
      DropsOutdated ((mergerMachine limits).trace earlier) ((mergerMachine limits).run earlier)

theorem publishesInOrder_cons (positive : 0 < limits.maxQueueSize) {call : MergerCall}
    {calls : List MergerCall} :
    PublishesInOrder limits (call :: calls) ↔
      PublishesInOrder limits calls ∧
        DropsOutdated ((mergerMachine limits).trace (call :: calls))
          ((mergerMachine limits).run (call :: calls)) := by
  constructor
  · rintro ⟨ordered, clean⟩
    refine ⟨⟨?_, ?_⟩, clean [] _ rfl⟩
    · -- The earlier stamps are ordered among themselves.
      refine ordered.sublist ?_
      exact (List.sublist_cons_self _ _).filterMap _
    · intro newer earlier split
      exact clean (call :: newer) earlier (by rw [split]; rfl)
  · rintro ⟨⟨ordered, clean⟩, last⟩
    refine ⟨?_, ?_⟩
    · have accounted := framesAccounted_run positive calls
      unfold InStampOrder
      show (publishedStamps (⟨(mergerMachine limits).run calls, call⟩ ::
        (mergerMachine limits).trace calls)).Pairwise _
      cases publishes : publishedWork ⟨(mergerMachine limits).run calls, call⟩ with
      | none =>
        rw [publishedStamps_cons_of_none publishes]
        exact ordered
      | some work =>
        rw [publishedStamps_cons_of_some publishes]
        exact List.pairwise_cons.mpr
          ⟨latestStamp_of_dropsOutdated accounted (clean [] calls rfl) publishes, ordered⟩
    · intro newer earlier split
      cases newer with
      | nil =>
        obtain rfl : call :: calls = earlier := split
        exact last
      | cons head rest => exact clean rest earlier (List.cons.inj split).2

theorem publishesInOrder_iff (positive : 0 < limits.maxQueueSize) (calls : List MergerCall) :
    PublishesInOrder limits calls ↔ Throughout Timely ((mergerMachine limits).trace calls) := by
  induction calls with
  | nil =>
    -- Nothing is published or queued at the start.
    refine ⟨fun _ newer event older split => by simp [Machine.trace] at split, fun _ => ?_⟩
    refine ⟨List.Pairwise.nil, ?_⟩
    intro newer earlier split stamp member
    obtain ⟨-, rfl⟩ := List.append_eq_nil_iff.mp split.symm
    cases member
  | cons call calls ih =>
    have accounted := framesAccounted_run positive calls
    refine (publishesInOrder_cons positive).trans ?_
    refine Iff.trans ?_ throughout_cons.symm
    constructor
    · rintro ⟨before, last⟩
      have clean := before.2 [] calls rfl
      exact ⟨(step_timely accounted clean call).mp last, ih.mp before⟩
    · rintro ⟨timely, before⟩
      have clean := (ih.mpr before).2 [] calls rfl
      exact ⟨ih.mpr before, (step_timely accounted clean call).mpr timely⟩

end Steps

/-- A run publishes in the order of the stamps exactly if all of its callbacks are timely. -/
theorem merger_publishes_in_order (maxPairDtSec staleTimeoutSec : Scalar) (maxQueueSize : Int)
    (calls : List MergerCall) :
    PublishesInOrder (.ofParameters maxPairDtSec staleTimeoutSec maxQueueSize) calls ↔
      Throughout Timely ((mergerMachine (.ofParameters maxPairDtSec staleTimeoutSec
        maxQueueSize)).trace calls) := by
  apply publishesInOrder_iff
  show 0 < (max 1 maxQueueSize).toNat
  omega

def delayedLidar : List MergerCall :=
  [.timer 170000000, .timer 120000000, .pointCloud .b 20000000 0 50000000 true,
    .pointCloud .a 100000000 0 0 true]

theorem merger_publishes_backwards :
    ¬∀ (maxPairDtSec staleTimeoutSec : Scalar) (maxQueueSize : Int) (calls : List MergerCall),
      InStampOrder ((mergerMachine (.ofParameters maxPairDtSec staleTimeoutSec
        maxQueueSize)).trace calls) := by
  intro ordered
  have stamps : publishedStamps ((mergerMachine (.ofParameters 0.060 0.120 8)).trace
      delayedLidar) = [20000000, 100000000] := by with_unfolding_all decide
  have backwards := ordered 0.060 0.120 8 delayedLidar
  unfold InStampOrder at backwards
  rw [stamps] at backwards
  simp at backwards

end NdtSlam
