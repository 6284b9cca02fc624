import Mathlib.Data.List.Nodup
import NdtSlam.Merger.PointCloudMerger

/-! Where every frame is that the synchronizer has queued. -/

namespace NdtSlam

abbrev MergerEvent := Event PointCloudMerger MergerCall

def ByStamp (queue : List CloudFrame) : Prop :=
  queue.Pairwise fun earlier later => earlier.stamp ≤ later.stamp

/-! ### Queues -/

theorem insertByStamp_perm (queue : List CloudFrame) (frame : CloudFrame) :
    (insertByStamp queue frame).Perm (frame :: queue) := by
  unfold insertByStamp
  refine List.perm_middle.trans ?_
  rw [List.takeWhile_append_dropWhile]

theorem ByStamp.insert {queue : List CloudFrame} (ordered : ByStamp queue) (frame : CloudFrame) :
    ByStamp (insertByStamp queue frame) := by
  induction queue with
  | nil => exact List.pairwise_singleton _ _
  | cons head rest ih =>
    obtain ⟨first, others⟩ := List.pairwise_cons.mp ordered
    unfold insertByStamp
    by_cases before : head.stamp ≤ frame.stamp
    · rw [List.takeWhile_cons_of_pos (by simpa using before),
        List.dropWhile_cons_of_pos (by simpa using before)]
      refine List.pairwise_cons.mpr ⟨?_, ih others⟩
      -- Behind the head come the frame and the frames that have been behind it before.
      intro later member
      rcases List.mem_cons.mp ((insertByStamp_perm rest frame).mem_iff.mp member) with
        rfl | member
      · exact before
      · exact first later member
    · rw [List.takeWhile_cons_of_neg (by simpa using before),
        List.dropWhile_cons_of_neg (by simpa using before)]
      refine List.pairwise_cons.mpr ⟨?_, ordered⟩
      intro later member
      rcases List.mem_cons.mp member with rfl | member
      · omega
      · have behind := first later member
        omega

theorem queue_split {queue : List CloudFrame} {index : Nat} {frame : CloudFrame}
    (found : queue[index]? = some frame) :
    queue = queue.take index ++ frame :: queue.drop (index + 1) := by
  obtain ⟨inside, here⟩ := List.getElem?_eq_some_iff.mp found
  rw [← here, List.getElem_cons_drop, List.take_append_drop]

/-! ### Pairs -/

variable {queueA queueB : List CloudFrame}

theorem mem_framePairs {pair : FramePair} :
    pair ∈ framePairs queueA queueB ↔
      queueA[pair.indexA]? = some pair.frameA ∧ queueB[pair.indexB]? = some pair.frameB := by
  unfold framePairs
  rw [List.mem_flatMap]
  constructor
  · rintro ⟨⟨frameA, indexA⟩, inA, member⟩
    obtain ⟨⟨frameB, indexB⟩, inB, rfl⟩ := List.mem_map.mp member
    exact ⟨List.mk_mem_zipIdx_iff_getElem?.mp inA, List.mk_mem_zipIdx_iff_getElem?.mp inB⟩
  · rintro ⟨inA, inB⟩
    exact ⟨(pair.frameA, pair.indexA), List.mk_mem_zipIdx_iff_getElem?.mpr inA,
      List.mem_map.mpr ⟨(pair.frameB, pair.indexB), List.mk_mem_zipIdx_iff_getElem?.mpr inB, rfl⟩⟩

theorem closestPair_spec {pair : FramePair} (closest : closestPair queueA queueB = some pair) :
    queueA[pair.indexA]? = some pair.frameA ∧ queueB[pair.indexB]? = some pair.frameB ∧
      ∀ frameA ∈ queueA, ∀ frameB ∈ queueB, pair.dtNs ≤ stampDistance frameA frameB := by
  obtain ⟨inA, inB⟩ := mem_framePairs.1 (foremost_mem closest)
  refine ⟨inA, inB, ?_⟩
  intro frameA memberA frameB memberB
  obtain ⟨indexA, foundA⟩ := List.mem_iff_getElem?.mp memberA
  obtain ⟨indexB, foundB⟩ := List.mem_iff_getElem?.mp memberB
  -- The scan has compared with every pair.
  have least := (@foremost_leads FramePair Nat _ _ _ FramePair.dtNs _
    (fun _ _ _ _ => by simp) closest).2
  exact least ⟨indexA, frameA, indexB, frameB⟩ (mem_framePairs.2 ⟨foundA, foundB⟩)

theorem closestPair_isSome {frameA frameB : CloudFrame} (memberA : frameA ∈ queueA)
    (memberB : frameB ∈ queueB) :
    ∃ pair, closestPair queueA queueB = some pair := by
  cases closest : closestPair queueA queueB with
  | some pair => exact ⟨pair, rfl⟩
  | none =>
    obtain ⟨indexA, foundA⟩ := List.mem_iff_getElem?.mp memberA
    obtain ⟨indexB, foundB⟩ := List.mem_iff_getElem?.mp memberB
    have listed : (⟨indexA, frameA, indexB, frameB⟩ : FramePair) ∈ framePairs queueA queueB :=
      mem_framePairs.2 ⟨foundA, foundB⟩
    rw [foremost_eq_none.1 closest] at listed
    cases listed

theorem secondsOf_le {first second : Nat} (ordered : first ≤ second) :
    secondsOf first ≤ secondsOf second := by
  unfold secondsOf
  refine Scalar.fin_le_fin.2 ?_
  have cast : (first : ℚ) ≤ second := by exact_mod_cast ordered
  push_cast
  linarith

namespace PointCloudMerger

variable {self : PointCloudMerger}

theorem publishedPair_some {pair : FramePair} (published : self.publishedPair = some pair) :
    self.lidarA.queue[pair.indexA]? = some pair.frameA ∧
      self.lidarB.queue[pair.indexB]? = some pair.frameB ∧
      secondsOf pair.dtNs ≤ self.limits.maxPairDtSec ∧
      ∀ frameA ∈ self.lidarA.queue, ∀ frameB ∈ self.lidarB.queue,
        pair.dtNs ≤ stampDistance frameA frameB := by
  obtain ⟨closest, close⟩ := Option.filter_eq_some_iff.mp published
  obtain ⟨inA, inB, least⟩ := closestPair_spec closest
  exact ⟨inA, inB, by simpa using close, least⟩

theorem publishedPair_none (without : self.publishedPair = none) :
    ∀ frameA ∈ self.lidarA.queue, ∀ frameB ∈ self.lidarB.queue,
      ¬secondsOf (stampDistance frameA frameB) ≤ self.limits.maxPairDtSec := by
  intro frameA memberA frameB memberB close
  obtain ⟨pair, closest⟩ := closestPair_isSome memberA memberB
  obtain ⟨-, -, least⟩ := closestPair_spec closest
  -- The closest pair would be close enough as well.
  have closer := Scalar.le_trans (secondsOf_le (least frameA memberA frameB memberB)) close
  have present : self.publishedPair = some pair :=
    Option.filter_eq_some_iff.mpr ⟨closest, by simpa using closer⟩
  rw [without] at present
  cases present

/-! ### What one callback does with the frames -/

def queuedOf (self : PointCloudMerger) (name : LidarName) : List SelectedFrame :=
  (self.lidar name).queue.map (⟨name, ·⟩)

def queued (self : PointCloudMerger) : List SelectedFrame := self.queuedOf .a ++ self.queuedOf .b

end PointCloudMerger

def enqueuedAt (event : MergerEvent) : List SelectedFrame :=
  match event.call with
  | .pointCloud name stamp rosSequence receivedAt true =>
    [⟨name, event.before.frameOf name stamp rosSequence receivedAt⟩]
  | _ => []

def overflowedAt (event : MergerEvent) : List SelectedFrame :=
  match event.call with
  | .pointCloud name _ _ _ true =>
    if event.before.overflows name then
      (event.before.lidar name).queue.head?.toList.map (⟨name, ·⟩)
    else []
  | _ => []

def publishedWork (event : MergerEvent) : Option PublishWork :=
  match event.call with
  | .pointCloud .. => none
  | .timer now => (event.before.mergeAndPublish now).2

def publishedAt (event : MergerEvent) : List SelectedFrame :=
  (publishedWork event).elim [] (·.frames)

def supersededAt (event : MergerEvent) : List SelectedFrame :=
  match event.call, event.before.publishedPair with
  | .timer _, some pair =>
    (event.before.lidarA.queue.take pair.indexA).map (⟨.a, ·⟩) ++
      (event.before.lidarB.queue.take pair.indexB).map (⟨.b, ·⟩)
  | _, _ => []

def fallsBackAt (event : MergerEvent) : Bool :=
  (publishedWork event).any fun work => work.mode = .singleTimeout

namespace PointCloudMerger

variable {self : PointCloudMerger}

theorem mergeAndPublish_pair {pair : FramePair} {now : Int} (two : self.hasPair = true)
    (published : self.publishedPair = some pair) :
    ∃ work, self.mergeAndPublish now =
        ({ (self.consumePair pair now).1 with
            pairedCount := self.pairedCount + 1
            publishedCount := self.publishedCount + 1 }, some work) ∧
      work = ⟨[⟨.a, pair.frameA⟩, ⟨.b, pair.frameB⟩], .paired, secondsOf pair.dtNs,
        .maxOf (secondsSince pair.frameA.receivedAt now)
          (secondsSince pair.frameB.receivedAt now)⟩ := by
  unfold mergeAndPublish selectPublishWork
  rw [two, published]
  exact ⟨_, rfl, rfl⟩

theorem mergeAndPublish_single {now : Int} (two : self.hasPair = true)
    (without : self.publishedPair = none) :
    (self.mergeAndPublish now = (self, none) ∧
        ∀ name front rest, self.fallbackLidar = some name →
          (self.lidar name).queue = front :: rest →
          secondsSince front.receivedAt now < self.limits.staleTimeoutSec) ∨
      ∃ name front rest, self.fallbackLidar = some name ∧
        (self.lidar name).queue = front :: rest ∧
        ¬secondsSince front.receivedAt now < self.limits.staleTimeoutSec ∧
        self.mergeAndPublish now =
          ({ self.setLidar name { self.lidar name with
                queue := rest, singleCount := (self.lidar name).singleCount + 1 } with
              fallbackCount := self.fallbackCount + 1
              publishedCount := self.publishedCount + 1 },
            some ⟨[⟨name, front⟩], .singleTimeout, -1, secondsSince front.receivedAt now⟩) := by
  unfold mergeAndPublish selectPublishWork
  rw [two, without]
  dsimp only [Bool.not_true]
  rw [if_neg (by simp)]
  unfold selectFallback
  cases chosen : self.fallbackLidar with
  | none => exact .inl ⟨rfl, fun _ _ _ other => by cases other⟩
  | some name =>
    dsimp only
    cases waiting : (self.lidar name).queue with
    | nil =>
      refine .inl ⟨rfl, fun other front rest same queue => ?_⟩
      obtain rfl := Option.some.inj same
      rw [waiting] at queue
      cases queue
    | cons front rest =>
      dsimp only
      by_cases young : secondsSince front.receivedAt now < self.limits.staleTimeoutSec
      · rw [if_pos young]
        refine .inl ⟨rfl, fun other first others same queue => ?_⟩
        obtain rfl := Option.some.inj same
        rw [waiting] at queue
        obtain ⟨rfl, -⟩ := List.cons.inj queue
        exact young
      · rw [if_neg young]
        refine .inr ⟨name, front, rest, rfl, waiting, young, ?_⟩
        cases name <;> rfl

def otherLidar : LidarName → LidarName
  | .a => .b
  | .b => .a

theorem queued_perm (name : LidarName) :
    self.queued.Perm (self.queuedOf name ++ self.queuedOf (otherLidar name)) := by
  cases name with
  | a => exact .refl _
  | b => exact List.perm_append_comm

theorem eq_or_other (name given : LidarName) : name = given ∨ name = otherLidar given := by
  cases name <;> cases given <;> decide

theorem enqueue_lidar {name : LidarName} {stamp rosSequence : Nat} {receivedAt : Int} :
    ((self.enqueue name stamp rosSequence receivedAt).lidar name).queue =
        insertByStamp (if self.overflows name then (self.lidar name).queue.tail
          else (self.lidar name).queue) (self.frameOf name stamp rosSequence receivedAt) ∧
      ((self.enqueue name stamp rosSequence receivedAt).lidar name).nextSequence =
        (self.lidar name).nextSequence + 1 ∧
      (self.enqueue name stamp rosSequence receivedAt).lidar (otherLidar name) =
        self.lidar (otherLidar name) ∧
      (self.enqueue name stamp rosSequence receivedAt).hasPair = self.hasPair ∧
      (self.enqueue name stamp rosSequence receivedAt).limits = self.limits := by
  unfold enqueue
  cases name <;> exact ⟨rfl, rfl, rfl, rfl, rfl⟩

end PointCloudMerger

/-! ### The accounts of a run -/

def inAll (happens : MergerEvent → List SelectedFrame) (past : List MergerEvent) :
    List SelectedFrame := past.flatMap happens

structure FramesAccounted (limits : MergerLimits) (past : List MergerEvent)
    (merger : PointCloudMerger) : Prop where
  hasPair : merger.hasPair = true
  sameLimits : merger.limits = limits
  conserved : (inAll enqueuedAt past).Perm
    (merger.queued ++ inAll publishedAt past ++ inAll overflowedAt past ++
      inAll supersededAt past)
  overflowDropCount : merger.overflowDropCount = (inAll overflowedAt past).length
  supersededDropCount : merger.supersededDropCount = (inAll supersededAt past).length
  fallbackCount : merger.fallbackCount = past.countP fallsBackAt
  sorted : ∀ name, ByStamp (merger.lidar name).queue
  bounded : ∀ name, (merger.lidar name).queue.length ≤ limits.maxQueueSize
  numbered : ∀ selected ∈ inAll enqueuedAt past,
    selected.frame.sequence ≤ (merger.lidar selected.lidarName).nextSequence
  distinct : (inAll enqueuedAt past).Nodup

theorem inAll_cons (happens : MergerEvent → List SelectedFrame) (event : MergerEvent)
    (past : List MergerEvent) :
    inAll happens (event :: past) = happens event ++ inAll happens past := rfl

theorem conserved_cons {before after : List SelectedFrame} {event : MergerEvent}
    {past : List MergerEvent}
    (conserved : (inAll enqueuedAt past).Perm
      (before ++ inAll publishedAt past ++ inAll overflowedAt past ++ inAll supersededAt past))
    (moved : (enqueuedAt event ++ before).Perm
      (after ++ publishedAt event ++ overflowedAt event ++ supersededAt event)) :
    (inAll enqueuedAt (event :: past)).Perm
      (after ++ inAll publishedAt (event :: past) ++ inAll overflowedAt (event :: past) ++
        inAll supersededAt (event :: past)) := by
  -- Both sides contain each frame equally often.
  rw [List.perm_iff_count] at conserved moved ⊢
  intro selected
  have older := conserved selected
  have newest := moved selected
  simp only [inAll_cons, List.count_append] at older newest ⊢
  omega

section Steps

variable {limits : MergerLimits} {past : List MergerEvent} {merger : PointCloudMerger}

theorem FramesAccounted.empty (accounted : FramesAccounted limits past merger) {name : LidarName}
    {stamp rosSequence : Nat} {receivedAt : Int} :
    FramesAccounted limits
      (⟨merger, .pointCloud name stamp rosSequence receivedAt false⟩ :: past)
      (merger.pointCloudCallback name stamp rosSequence receivedAt false) where
  hasPair := accounted.hasPair
  sameLimits := accounted.sameLimits
  conserved := accounted.conserved
  overflowDropCount := accounted.overflowDropCount
  supersededDropCount := accounted.supersededDropCount
  fallbackCount := accounted.fallbackCount
  sorted name := by cases name; exacts [accounted.sorted .a, accounted.sorted .b]
  bounded name := by cases name; exacts [accounted.bounded .a, accounted.bounded .b]
  numbered := by
    intro selected member
    have known := accounted.numbered selected member
    revert known
    cases selected.lidarName <;> exact id
  distinct := accounted.distinct

theorem overflow_split (merger : PointCloudMerger) (name : LidarName) {stamp rosSequence : Nat}
    {receivedAt : Int} (positive : 0 < merger.limits.maxQueueSize) :
    overflowedAt ⟨merger, .pointCloud name stamp rosSequence receivedAt true⟩ ++
        (if merger.overflows name then (merger.lidar name).queue.tail
          else (merger.lidar name).queue).map (⟨name, ·⟩) = merger.queuedOf name ∧
      (overflowedAt ⟨merger, .pointCloud name stamp rosSequence receivedAt true⟩).length =
        if merger.overflows name then 1 else 0 := by
  unfold overflowedAt PointCloudMerger.queuedOf
  dsimp only
  by_cases full : merger.overflows name = true
  · rw [if_pos full, if_pos full, if_pos full]
    -- A full queue is not empty.
    cases queue : (merger.lidar name).queue with
    | nil =>
      simp only [PointCloudMerger.overflows, queue, List.length_nil, decide_eq_true_eq] at full
      omega
    | cons head rest => exact ⟨rfl, rfl⟩
  · rw [if_neg full, if_neg full, if_neg full]
    exact ⟨rfl, rfl⟩

section

variable (accounted : FramesAccounted limits past merger)
include accounted

theorem FramesAccounted.enqueue (positive : 0 < limits.maxQueueSize) {name : LidarName}
    {stamp rosSequence : Nat} {receivedAt : Int} :
    FramesAccounted limits (⟨merger, .pointCloud name stamp rosSequence receivedAt true⟩ :: past)
      (merger.pointCloudCallback name stamp rosSequence receivedAt true) := by
  obtain ⟨queue, number, other, pair, sameLimits⟩ :=
    @PointCloudMerger.enqueue_lidar merger name stamp rosSequence receivedAt
  obtain ⟨room, dropped⟩ := @overflow_split merger name stamp rosSequence receivedAt
    (accounted.sameLimits ▸ positive)
  set kept := if merger.overflows name then (merger.lidar name).queue.tail
    else (merger.lidar name).queue with keptQueue
  have sublist : kept.Sublist (merger.lidar name).queue := by
    rw [keptQueue]
    split_ifs
    · exact List.tail_sublist _
    · exact .refl _
  show FramesAccounted limits _ (merger.enqueue name stamp rosSequence receivedAt)
  refine ⟨pair.trans accounted.hasPair, sameLimits.trans accounted.sameLimits, ?_, ?_, ?_, ?_,
    ?_, ?_, ?_, ?_⟩
  · refine conserved_cons accounted.conserved ?_
    -- The queue has the new frame, and the dropped one has left it.
    have after := @PointCloudMerger.queued_perm
      (merger.enqueue name stamp rosSequence receivedAt) name
    have before := @PointCloudMerger.queued_perm merger name
    have inserted := (insertByStamp_perm kept
      (merger.frameOf name stamp rosSequence receivedAt)).map
        (fun frame => (⟨name, frame⟩ : SelectedFrame))
    unfold PointCloudMerger.queuedOf at after before room
    rw [other, queue] at after
    rw [← room] at before
    rw [List.perm_iff_count] at after before inserted ⊢
    intro selected
    have a := after selected
    have b := before selected
    have c := inserted selected
    simp only [List.count_append, List.map_cons, List.count_cons, List.count_nil, enqueuedAt,
      publishedAt, publishedWork, supersededAt, Option.elim_none] at a b c ⊢
    omega
  · rw [inAll_cons, List.length_append, dropped, ← accounted.overflowDropCount]
    show (if merger.overflows name = true then _ else _) = _
    split_ifs <;> omega
  · refine Eq.trans ?_ accounted.supersededDropCount
    cases name <;> rfl
  · refine Eq.trans ?_ accounted.fallbackCount
    cases name <;> rfl
  · intro which
    rcases PointCloudMerger.eq_or_other which name with rfl | rfl
    · rw [queue]
      exact ByStamp.insert ((accounted.sorted which).sublist sublist) _
    · rw [other]
      exact accounted.sorted _
  · intro which
    rcases PointCloudMerger.eq_or_other which name with rfl | rfl
    · rw [queue, (insertByStamp_perm _ _).length_eq, List.length_cons, keptQueue]
      have bounded := accounted.bounded which
      unfold PointCloudMerger.overflows
      rw [accounted.sameLimits]
      split_ifs with full
      · rw [List.length_tail]
        omega
      · simp only [decide_eq_true_eq] at full
        omega
    · rw [other]
      exact accounted.bounded _
  · intro selected member
    rw [inAll_cons] at member
    rcases List.mem_append.mp member with new | old
    · obtain rfl := List.mem_singleton.mp new
      rw [number]
      exact le_refl _
    · have known := accounted.numbered selected old
      rcases PointCloudMerger.eq_or_other selected.lidarName name with same | different
      · rw [same] at known ⊢
        omega
      · rw [different, other, ← different]
        exact known
  · rw [inAll_cons]
    refine List.nodup_append.mpr ⟨List.nodup_singleton _, accounted.distinct, ?_⟩
    -- The number of the new frame is larger than all numbers before.
    intro selected new earlier old same
    obtain rfl := List.mem_singleton.mp new
    have known := accounted.numbered earlier old
    rw [← same] at known
    simp only [PointCloudMerger.frameOf] at known
    omega

theorem FramesAccounted.idle {now : Int} (without : merger.publishedPair = none)
    (idle : merger.mergeAndPublish now = (merger, none)) :
    FramesAccounted limits (⟨merger, .timer now⟩ :: past) (merger.mergeAndPublish now).1 := by
  have work : publishedWork ⟨merger, .timer now⟩ = none := by
    show (merger.mergeAndPublish now).2 = none
    rw [idle]
  have published : publishedAt ⟨merger, .timer now⟩ = [] := by
    unfold publishedAt
    rw [work]
    rfl
  have superseded : supersededAt ⟨merger, .timer now⟩ = [] := by
    unfold supersededAt
    dsimp only
    rw [without]
  have waits : fallsBackAt ⟨merger, .timer now⟩ = false := by
    unfold fallsBackAt
    rw [work]
    rfl
  rw [idle]
  refine ⟨accounted.hasPair, accounted.sameLimits, ?_, accounted.overflowDropCount, ?_, ?_,
    accounted.sorted, accounted.bounded, accounted.numbered, accounted.distinct⟩
  · refine conserved_cons accounted.conserved ?_
    rw [published, superseded]
    simp [enqueuedAt, overflowedAt]
  · rw [inAll_cons, superseded]
    exact accounted.supersededDropCount
  · rw [List.countP_cons_of_neg (by simp [waits])]
    exact accounted.fallbackCount

theorem FramesAccounted.single {now : Int}
    (without : merger.publishedPair = none) {name : LidarName} {front : CloudFrame}
    {rest : List CloudFrame} {oldestAgeSec : Scalar}
    (queue : (merger.lidar name).queue = front :: rest)
    (single : merger.mergeAndPublish now =
      ({ merger.setLidar name { merger.lidar name with
            queue := rest, singleCount := (merger.lidar name).singleCount + 1 } with
          fallbackCount := merger.fallbackCount + 1
          publishedCount := merger.publishedCount + 1 },
        some ⟨[⟨name, front⟩], .singleTimeout, -1, oldestAgeSec⟩)) :
    FramesAccounted limits (⟨merger, .timer now⟩ :: past) (merger.mergeAndPublish now).1 := by
  have work : publishedWork ⟨merger, .timer now⟩ =
      some ⟨[⟨name, front⟩], .singleTimeout, -1, oldestAgeSec⟩ := by
    show (merger.mergeAndPublish now).2 = _
    rw [single]
  have published : publishedAt ⟨merger, .timer now⟩ = [⟨name, front⟩] := by
    unfold publishedAt
    rw [work]
    rfl
  have superseded : supersededAt ⟨merger, .timer now⟩ = [] := by
    unfold supersededAt
    dsimp only
    rw [without]
  have falls : fallsBackAt ⟨merger, .timer now⟩ = true := by
    unfold fallsBackAt
    rw [work]
    rfl
  set after := (merger.mergeAndPublish now).1 with result
  -- The queue of the lidar has lost its head, and the other queue is as it was.
  have own : (after.lidar name).queue = rest ∧
      (after.lidar name).nextSequence = (merger.lidar name).nextSequence := by
    rw [result, single]
    cases name <;> exact ⟨rfl, rfl⟩
  have other : after.lidar (PointCloudMerger.otherLidar name) =
      merger.lidar (PointCloudMerger.otherLidar name) := by
    rw [result, single]
    cases name <;> rfl
  have kept : after.hasPair = merger.hasPair ∧ after.limits = merger.limits ∧
      after.overflowDropCount = merger.overflowDropCount ∧
      after.supersededDropCount = merger.supersededDropCount ∧
      after.fallbackCount = merger.fallbackCount + 1 := by
    rw [result, single]
    cases name <;> exact ⟨rfl, rfl, rfl, rfl, rfl⟩
  have sublist : rest.Sublist (merger.lidar name).queue := queue ▸ List.sublist_cons_self _ _
  refine ⟨kept.1.trans accounted.hasPair, kept.2.1.trans accounted.sameLimits, ?_,
    kept.2.2.1.trans accounted.overflowDropCount, ?_, ?_, ?_, ?_, ?_, accounted.distinct⟩
  · refine conserved_cons accounted.conserved ?_
    have moved := after.queued_perm name
    have before := merger.queued_perm name
    unfold PointCloudMerger.queuedOf at moved before
    rw [other, own.1] at moved
    rw [queue] at before
    rw [published, superseded]
    rw [List.perm_iff_count] at moved before ⊢
    intro selected
    have a := moved selected
    have b := before selected
    simp only [List.count_append, List.map_cons, List.count_cons, List.count_nil, enqueuedAt,
      overflowedAt] at a b ⊢
    omega
  · rw [inAll_cons, superseded]
    exact kept.2.2.2.1.trans accounted.supersededDropCount
  · rw [List.countP_cons_of_pos falls, kept.2.2.2.2, accounted.fallbackCount]
  · intro which
    rcases PointCloudMerger.eq_or_other which name with rfl | rfl
    · rw [own.1]
      exact (accounted.sorted which).sublist sublist
    · rw [other]
      exact accounted.sorted _
  · intro which
    rcases PointCloudMerger.eq_or_other which name with rfl | rfl
    · rw [own.1]
      exact sublist.length_le.trans (accounted.bounded which)
    · rw [other]
      exact accounted.bounded _
  · intro selected member
    have known := accounted.numbered selected member
    rcases PointCloudMerger.eq_or_other selected.lidarName name with same | different
    · rw [same, own.2, ← same]
      exact known
    · rw [different, other, ← different]
      exact known

theorem FramesAccounted.pair {now : Int} {pair : FramePair}
    (closest : merger.publishedPair = some pair) :
    FramesAccounted limits (⟨merger, .timer now⟩ :: past) (merger.mergeAndPublish now).1 := by
  obtain ⟨work, outcome, contents⟩ :=
    @PointCloudMerger.mergeAndPublish_pair merger pair now accounted.hasPair closest
  obtain ⟨inA, inB, -, -⟩ := PointCloudMerger.publishedPair_some closest
  have known : publishedWork ⟨merger, .timer now⟩ = some work := by
    show (merger.mergeAndPublish now).2 = _
    rw [outcome]
  have published : publishedAt ⟨merger, .timer now⟩ =
      [⟨.a, pair.frameA⟩, ⟨.b, pair.frameB⟩] := by
    unfold publishedAt
    rw [known, contents]
    rfl
  have superseded : supersededAt ⟨merger, .timer now⟩ =
      (merger.lidarA.queue.take pair.indexA).map (⟨.a, ·⟩) ++
        (merger.lidarB.queue.take pair.indexB).map (⟨.b, ·⟩) := by
    unfold supersededAt
    dsimp only
    rw [closest]
  have falls : fallsBackAt ⟨merger, .timer now⟩ = false := by
    unfold fallsBackAt
    rw [known, contents]
    rfl
  rw [outcome]
  refine ⟨accounted.hasPair, accounted.sameLimits, ?_, accounted.overflowDropCount, ?_, ?_, ?_,
    ?_, ?_, accounted.distinct⟩
  · refine conserved_cons accounted.conserved ?_
    -- Each queue falls into what is in front of its frame, the frame, and what is behind it.
    have before : merger.queued =
        ((merger.lidarA.queue.take pair.indexA ++ pair.frameA ::
            merger.lidarA.queue.drop (pair.indexA + 1)).map (⟨.a, ·⟩) ++
          (merger.lidarB.queue.take pair.indexB ++ pair.frameB ::
            merger.lidarB.queue.drop (pair.indexB + 1)).map (⟨.b, ·⟩)) := by
      rw [← queue_split inA, ← queue_split inB]
      rfl
    rw [before, published, superseded]
    rw [List.perm_iff_count]
    intro selected
    simp only [List.count_append, List.map_append, List.map_cons, List.count_cons,
      List.count_nil, enqueuedAt, overflowedAt, PointCloudMerger.consumePair,
      PointCloudMerger.queued, PointCloudMerger.queuedOf, PointCloudMerger.lidar]
    omega
  · rw [inAll_cons, superseded]
    have insideA := (List.getElem?_eq_some_iff.mp inA).1
    have insideB := (List.getElem?_eq_some_iff.mp inB).1
    have count := accounted.supersededDropCount
    simp only [PointCloudMerger.consumePair, List.length_append, List.length_map,
      List.length_take]
    omega
  · rw [List.countP_cons_of_neg (by simp [falls])]
    exact accounted.fallbackCount
  · intro name
    cases name with
    | a => exact (accounted.sorted .a).sublist (List.drop_sublist _ _)
    | b => exact (accounted.sorted .b).sublist (List.drop_sublist _ _)
  · intro name
    cases name with
    | a => exact (List.drop_sublist _ _).length_le.trans (accounted.bounded .a)
    | b => exact (List.drop_sublist _ _).length_le.trans (accounted.bounded .b)
  · intro selected member
    have known := accounted.numbered selected member
    revert known
    cases selected.lidarName <;> exact id

theorem FramesAccounted.step (positive : 0 < limits.maxQueueSize) (call : MergerCall) :
    FramesAccounted limits (⟨merger, call⟩ :: past) ((mergerMachine limits).step merger call).1 := by
  cases call with
  | pointCloud name stamp rosSequence receivedAt hasPoints =>
    cases hasPoints with
    | true => exact accounted.enqueue positive
    | false => exact accounted.empty
  | timer now =>
    show FramesAccounted limits _ (merger.mergeAndPublish now).1
    cases closest : merger.publishedPair with
    | some pair => exact accounted.pair closest
    | none =>
      rcases @PointCloudMerger.mergeAndPublish_single merger now accounted.hasPair closest with
        ⟨idle, -⟩ | ⟨name, front, rest, -, queue, -, single⟩
      · exact accounted.idle closest idle
      · exact accounted.single closest queue single

end

theorem framesAccounted_run (positive : 0 < limits.maxQueueSize) (calls : List MergerCall) :
    FramesAccounted limits ((mergerMachine limits).trace calls)
      ((mergerMachine limits).run calls) := by
  refine (mergerMachine limits).run_invariant ?_ ?_ calls
  · exact ⟨rfl, rfl, .refl _, rfl, rfl, rfl,
      fun name => by cases name <;> exact List.Pairwise.nil,
      fun name => by cases name <;> exact Nat.zero_le _, (by simp [inAll]), List.nodup_nil⟩
  · intro past state call holds
    exact holds.step positive call

end Steps

/-! ### What is selected -/

/-- The closest of all queued pairs is published, and it is close enough. -/
def PublishesClosest (event : MergerEvent) (work : PublishWork) : Prop :=
  work.mode = .paired ∧ ∃ frameA ∈ event.before.lidarA.queue, ∃ frameB ∈ event.before.lidarB.queue,
    work.frames = [⟨.a, frameA⟩, ⟨.b, frameB⟩] ∧
      secondsOf (stampDistance frameA frameB) ≤ event.before.limits.maxPairDtSec ∧
      ∀ otherA ∈ event.before.lidarA.queue, ∀ otherB ∈ event.before.lidarB.queue,
        stampDistance frameA frameB ≤ stampDistance otherA otherB

/-- A queued frame is published alone, after waiting, while no queued pair is close enough. -/
def PublishesWaiting (event : MergerEvent) (work : PublishWork) : Prop :=
  work.mode = .singleTimeout ∧ ∃ now name, ∃ frame ∈ (event.before.lidar name).queue,
    event.call = .timer now ∧ work.frames = [⟨name, frame⟩] ∧
      event.before.limits.staleTimeoutSec ≤ secondsSince frame.receivedAt now ∧
      ∀ frameA ∈ event.before.lidarA.queue, ∀ frameB ∈ event.before.lidarB.queue,
        ¬secondsOf (stampDistance frameA frameB) ≤ event.before.limits.maxPairDtSec

theorem stale_of_not_young {staleTimeoutSec : Scalar} {received now : Int}
    (old : ¬secondsSince received now < Scalar.maxOf 0.001 staleTimeoutSec) :
    Scalar.maxOf 0.001 staleTimeoutSec ≤ secondsSince received now := by
  -- The used timeout is a number or infinite, and no time falls short of infinity.
  have number : Scalar.maxOf 0.001 staleTimeoutSec = .posInf ∨
      ∃ limit : ℚ, Scalar.maxOf 0.001 staleTimeoutSec = .fin limit := by
    unfold Scalar.maxOf
    split_ifs with larger
    · cases staleTimeoutSec with
      | fin limit => exact .inr ⟨limit, rfl⟩
      | posInf => exact .inl rfl
      | nan => exact absurd larger (by decide)
      | negInf => exact absurd larger (by decide)
    · exact .inr ⟨_, rfl⟩
  rcases number with infinite | ⟨limit, finite⟩
  · rw [infinite] at old
    exact absurd rfl old
  · rw [finite] at old ⊢
    exact Scalar.fin_le_fin.2 (not_lt.mp fun below => old (Scalar.fin_lt_fin.2 below))

theorem publishes_cases {event : MergerEvent} {work : PublishWork} {staleTimeoutSec : Scalar}
    (two : event.before.hasPair = true)
    (timeout : event.before.limits.staleTimeoutSec = .maxOf 0.001 staleTimeoutSec)
    (publishes : publishedWork event = some work) :
    PublishesClosest event work ∨ PublishesWaiting event work := by
  obtain ⟨merger, call⟩ := event
  cases call with
  | pointCloud name stamp rosSequence receivedAt hasPoints => cases publishes
  | timer now =>
    have outcome : (merger.mergeAndPublish now).2 = some work := publishes
    cases closest : merger.publishedPair with
    | some pair =>
      obtain ⟨contents, result, rfl⟩ := PointCloudMerger.mergeAndPublish_pair two closest
      obtain ⟨inA, inB, close, least⟩ := PointCloudMerger.publishedPair_some closest
      rw [result] at outcome
      obtain rfl := Option.some.inj outcome
      exact .inl ⟨rfl, pair.frameA, List.mem_of_getElem? inA, pair.frameB,
        List.mem_of_getElem? inB, rfl, close, least⟩
    | none =>
      rcases PointCloudMerger.mergeAndPublish_single two closest with
        ⟨idle, -⟩ | ⟨name, front, rest, -, queue, old, single⟩
      · rw [idle] at outcome
        cases outcome
      · rw [single] at outcome
        obtain rfl := Option.some.inj outcome
        refine .inr ⟨rfl, now, name, front, ?_, rfl, rfl, ?_,
          PointCloudMerger.publishedPair_none closest⟩
        · rw [queue]
          exact List.mem_cons_self
        · rw [timeout] at old ⊢
          exact stale_of_not_young old

end NdtSlam
