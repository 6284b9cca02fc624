import NdtSlam.GlobalMap.KeyframeRebuild

/-! What the layers of the global map hold of each keyframe. -/

namespace NdtSlam

inductive MapLayer where
  | ground
  | objects

def GlobalLayers.pointsOf (self : GlobalLayers) : MapLayer → Nat → List Vec3
  | .ground, id => (self.ground.filter (·.source == id)).map (·.point)
  | .objects, id => (self.objects.filter (·.source == id)).map (·.point)

def named (keyframes : List KeyFrame) (id : Nat) : List KeyFrame :=
  keyframes.filter (·.id == id)

namespace KeyFrame

def placedIn (config : GlobalMapConfig) (self : KeyFrame) : MapLayer → List Vec3
  | .ground => config.placed self.currentPose ((self.layers config).elim [] (·.1))
  | .objects => config.placed self.currentPose ((self.layers config).elim [] (·.2))

def LayeredBy (self : KeyFrame) (ground objects : List Vec3) : Prop :=
  self.cloud = ground ++ objects ∧ self.groundPoints = some ground ∧
    self.objectsFiltered = some objects

end KeyFrame

namespace KeyframeJob

def cloudOf (self : KeyframeJob) : MapLayer → List Vec3
  | .ground => self.ground
  | .objects => self.objects

end KeyframeJob

/-! ### Layers -/

section Layers

variable {config : GlobalMapConfig}

theorem mapPoints_pointsOf {source id : Nat} {pose : Isometry} {cloud : List Vec3} :
    (((config.mapPoints source pose cloud).filter (·.source == id)).map (·.point)) =
      if source = id then config.placed pose cloud else [] := by
  unfold GlobalMapConfig.mapPoints
  rw [List.filter_map, List.map_map]
  by_cases own : source = id
  · rw [if_pos own]
    simp [own, Function.comp_def]
  · rw [if_neg own]
    simp [own, Function.comp_def]

variable {layer : MapLayer}

theorem addKeyframe_pointsOf {self : GlobalLayers} {keyframe : KeyFrame} {id : Nat} :
    (self.addKeyframe config keyframe).pointsOf layer id =
      self.pointsOf layer id ++
        if keyframe.id = id then keyframe.placedIn config layer else [] := by
  unfold GlobalLayers.addKeyframe KeyFrame.placedIn
  cases layers : keyframe.layers config with
  | none => cases layer <;> simp [GlobalLayers.pointsOf, GlobalMapConfig.placed]
  | some pair =>
    cases layer <;>
      simp only [GlobalLayers.pointsOf, List.filter_append, List.map_append, mapPoints_pointsOf,
        Option.elim_some]

theorem rebuild_pointsOf {keyframes : List KeyFrame} {id : Nat} :
    (GlobalLayers.rebuild config keyframes).pointsOf layer id =
      (named keyframes id).flatMap (·.placedIn config layer) := by
  have collected (start : GlobalLayers) :
      (keyframes.foldl (GlobalLayers.addKeyframe config) start).pointsOf layer id =
        start.pointsOf layer id ++ (named keyframes id).flatMap (·.placedIn config layer) := by
    -- Each keyframe adds its own points.
    induction keyframes generalizing start with
    | nil => simp [named]
    | cons head rest ih =>
      rw [List.foldl_cons, ih, addKeyframe_pointsOf, List.append_assoc]
      by_cases own : head.id = id
      · simp [named, own]
      · simp [named, own]
  have start : ({} : GlobalLayers).pointsOf layer id = [] := by cases layer <;> rfl
  rw [GlobalLayers.rebuild, collected, start, List.nil_append]

theorem commit_pointsOf {self : GlobalLayers} {job : KeyframeJob} {id : Nat} :
    (self.commit config job).pointsOf layer id =
      self.pointsOf layer id ++
        if job.id = id then config.placed job.pose (job.cloudOf layer) else [] := by
  cases layer <;>
    simp only [GlobalLayers.commit, GlobalLayers.pointsOf, KeyframeJob.cloudOf,
      List.filter_append, List.map_append, mapPoints_pointsOf]

theorem KeyFrame.LayeredBy.placedIn_eq {keyframe : KeyFrame} {ground objects : List Vec3}
    (layered : keyframe.LayeredBy ground objects) :
    keyframe.placedIn config .ground = config.placed keyframe.currentPose ground ∧
      keyframe.placedIn config .objects = config.placed keyframe.currentPose objects := by
  obtain ⟨cloud, groundPoints, objectsFiltered⟩ := layered
  -- Without any points, there is nothing to be separated either.
  by_cases empty : ground = [] ∧ objects = []
  · obtain ⟨rfl, rfl⟩ := empty
    simp [KeyFrame.placedIn, KeyFrame.layers, cloud, groundPoints, objectsFiltered]
  · have some : (!ground.isEmpty || !objects.isEmpty) = true := by
      cases ground <;> cases objects <;> simp_all
    simp [KeyFrame.placedIn, KeyFrame.layers, groundPoints, objectsFiltered, some]

end Layers

/-! ### Keyframes of a name -/

section Named

variable {keyframes older : List KeyFrame} {keyframe : KeyFrame} {id : Nat}

theorem named_concat_of_ne (differs : keyframe.id ≠ id) :
    named (keyframes ++ [keyframe]) id = named keyframes id := by
  simp [named, differs]

theorem named_concat_self (below : ∀ other ∈ older, other.id < keyframe.id) :
    named (older ++ [keyframe]) keyframe.id = [keyframe] := by
  have none : named older keyframe.id = [] := by
    refine List.filter_eq_nil_iff.mpr fun other member same => ?_
    have smaller := below other member
    have equal : other.id = keyframe.id := by simpa using same
    omega
  simpa [named] using none

theorem named_eq_nil {last : Nat} (known : ∀ other ∈ keyframes, other.id ≤ last)
    (beyond : last < id) : named keyframes id = [] := by
  refine List.filter_eq_nil_iff.mpr fun other member same => ?_
  have bounded := known other member
  have equal : other.id = id := by simpa using same
  omega

end Named

namespace KeyframeCommit

def job : KeyframeCommit → Option KeyframeJob
  | .idle => none
  | .setLayers job | .testRunning job | .setPending job | .append job => some job

def layered : KeyframeCommit → Bool
  | .idle | .setLayers _ => false
  | .testRunning _ | .setPending _ | .append _ => true

def announced : KeyframeCommit → Bool
  | .append _ => true
  | _ => false

end KeyframeCommit

namespace RebuildRequest

def asks : RebuildRequest → Bool
  | .testRunning | .setPending => true
  | _ => false

def starts : RebuildRequest → Bool
  | .setRunning | .clearPending | .spawn => true
  | _ => false

end RebuildRequest

namespace GlobalRebuild

def quiet : GlobalRebuild → Bool
  | .absent | .clearRunning => true
  | _ => false

end GlobalRebuild

namespace GlobalMap

/-- Every keyframe of the generation is in the layers once, and every request is carried out. -/
structure Complete (config : GlobalMapConfig) (generation : MapGeneration) (map : GlobalMap) :
    Prop where
  everyKeyframe : ∀ id, generation.lastKeyframeId < id → id ≤ map.lastKeyframeId →
    ∃ keyframe ground objects, named map.keyframes id = [keyframe] ∧
      keyframe.groundPoints = some ground ∧ keyframe.objectsFiltered = some objects ∧
      map.layers.pointsOf .ground id = config.placed keyframe.currentPose ground ∧
      map.layers.pointsOf .objects id = config.placed keyframe.currentPose objects
  requests : map.carriedOut = map.requested

/-- Commits, requests and rebuilds do not meet where they harm each other. -/
structure Undisturbed (config : GlobalMapConfig) (event : GlobalMapEvent) : Prop where
  room : ∀ pose ground objects, event.call = .addKeyFrame true pose ground objects →
    event.before.commit = .idle → event.before.full config = false
  swap : ∀ keyframes requests, event.call = .rebuild →
    event.before.rebuild = .swap keyframes requests → event.before.pending = false →
      ∀ job ∈ event.before.commit.job, named keyframes job.id = []
  inTime : event.call = .request → event.before.request = .setPending →
    event.before.rebuild.quiet = false

structure Right (config : GlobalMapConfig) (generation : MapGeneration) (map : GlobalMap) :
    Prop where
  committed : ∀ layer id, generation.lastKeyframeId < id →
    (∀ job ∈ map.commit.job, job.id ≠ id) →
      map.layers.pointsOf layer id =
        (named map.keyframes id).flatMap (·.placedIn config layer)
  absent : ∀ job ∈ map.commit.job, ∀ layer, map.layers.pointsOf layer job.id = []
  inPlace : ∀ job ∈ map.commit.job, ∀ keyframe ∈ named map.keyframes job.id,
    keyframe.currentPose = job.pose
  requests : map.carriedOut = map.requested

structure Fresh (generation : MapGeneration) (map : GlobalMap) (keyframes : List KeyFrame)
    (requests : Nat) : Prop where
  committed : ∀ id, generation.lastKeyframeId < id → (∀ job ∈ map.commit.job, job.id ≠ id) →
    named keyframes id = named map.keyframes id
  announced : map.commit.announced = true → ∀ job ∈ map.commit.job,
    named keyframes job.id = named map.keyframes job.id
  inPlace : ∀ job ∈ map.commit.job, named keyframes job.id = [] →
    ∀ keyframe ∈ named map.keyframes job.id, keyframe.currentPose = job.pose
  requests : requests = map.requested

structure Committing (generation : MapGeneration) (map : GlobalMap) (job : KeyframeJob) :
    Prop where
  isLast : job.id = map.lastKeyframeId
  isNew : generation.lastKeyframeId < job.id
  listed : ∃ older keyframe, map.keyframes = older ++ [keyframe] ∧ keyframe.id = job.id ∧
    (∀ other ∈ older, other.id < job.id) ∧ keyframe.cloud = job.ground ++ job.objects ∧
    (map.commit.layered = true → keyframe.LayeredBy job.ground job.objects)

structure Consistent (config : GlobalMapConfig) (generation : MapGeneration) (map : GlobalMap) :
    Prop where
  known : ∀ keyframe ∈ map.keyframes, keyframe.id ≤ map.lastKeyframeId
  grown : generation.lastKeyframeId ≤ map.lastKeyframeId
  finished : ∀ id, generation.lastKeyframeId < id → id ≤ map.lastKeyframeId →
    (∀ job ∈ map.commit.job, job.id ≠ id) →
      ∃ keyframe ground objects, named map.keyframes id = [keyframe] ∧
        keyframe.LayeredBy ground objects
  committing : ∀ job ∈ map.commit.job, Committing generation map job
  right : map.rebuild.quiet = true → map.request = .idle → Right config generation map
  fresh : ∀ keyframes requests, map.rebuild = .swap keyframes requests → map.pending = false →
    map.request.asks = false → Fresh generation map keyframes requests
  older : ∀ keyframes requests, map.rebuild = .swap keyframes requests →
    ∀ keyframe ∈ keyframes, keyframe.id ≤ map.lastKeyframeId
  running : map.rebuild ≠ .absent → map.running = true
  stopped : map.rebuild = .absent → map.running = true →
    map.request = .clearPending ∨ map.request = .spawn
  starting : map.request.starts = true → map.rebuild = .absent
  started : map.request = .clearPending ∨ map.request = .spawn → map.running = true

variable {config : GlobalMapConfig} {generation : MapGeneration} {self : GlobalMap}

section

variable (consistent : self.Consistent config generation)
include consistent

theorem Consistent.complete (committed : self.commit = .idle) (requested : self.request = .idle)
    (rebuilt : self.rebuild = .absent) : self.Complete config generation := by
  have right := consistent.right (by simp [rebuilt, GlobalRebuild.quiet]) requested
  have free (id : Nat) : ∀ job ∈ self.commit.job, job.id ≠ id := by
    simp [committed, KeyframeCommit.job]
  refine ⟨fun id new bounded => ?_, right.requests⟩
  obtain ⟨keyframe, ground, objects, only, layered⟩ := consistent.finished id new bounded (free id)
  have placed := @KeyFrame.LayeredBy.placedIn_eq config _ _ _ layered
  refine ⟨keyframe, ground, objects, only, layered.2.1, layered.2.2, ?_, ?_⟩
  · rw [right.committed .ground id new (free id), only]
    simpa using placed.1
  · rw [right.committed .objects id new (free id), only]
    simpa using placed.2

/-! ### Commits -/

theorem Consistent.addKeyFrame (now : self.commit = .idle) (room : self.full config = false)
    (pose : Isometry) (ground objects : List Vec3) :
    (self.addKeyFrame config pose ground objects).Consistent config generation := by
  have free (id : Nat) : ∀ job ∈ self.commit.job, job.id ≠ id := by
    simp [now, KeyframeCommit.job]
  have grown := consistent.grown
  have below : ∀ other ∈ self.keyframes, other.id < self.lastKeyframeId + 1 :=
    fun other member => Nat.lt_succ_of_le (consistent.known other member)
  -- Nothing has borne the new number yet.
  have unused : named self.keyframes (self.lastKeyframeId + 1) = [] :=
    named_eq_nil consistent.known (Nat.lt_succ_self _)
  unfold GlobalMap.addKeyFrame
  simp only [room, Bool.false_eq_true, if_false]
  exact { consistent with
    known := by
      intro keyframe member
      rcases List.mem_append.mp member with older | new
      · exact Nat.le_succ_of_le (consistent.known keyframe older)
      · simp only [List.mem_singleton] at new
        rw [new]
    grown := Nat.le_succ_of_le grown
    finished := by
      intro id new bounded other
      have differs : self.lastKeyframeId + 1 ≠ id := other _ rfl
      rw [named_concat_of_ne differs]
      have bounded : id ≤ self.lastKeyframeId + 1 := bounded
      exact consistent.finished id new (by omega) (free id)
    committing := by
      rintro job ⟨⟩
      refine ⟨rfl, Nat.lt_succ_of_le grown, self.keyframes, _, rfl, rfl, below, rfl, ?_⟩
      simp [KeyframeCommit.layered]
    right := by
      intro quiet requested
      have right := consistent.right quiet requested
      refine ⟨?_, ?_, ?_, right.requests⟩
      · intro layer id new other
        have differs : self.lastKeyframeId + 1 ≠ id := other _ rfl
        rw [named_concat_of_ne differs]
        exact right.committed layer id new (free id)
      · rintro job ⟨⟩ layer
        have empty := right.committed layer _ (Nat.lt_succ_of_le grown) (free _)
        rw [unused] at empty
        exact empty
      · rintro job ⟨⟩ keyframe member
        have only := @named_concat_self self.keyframes
          { id := self.lastKeyframeId + 1, pose, cloud := ground ++ objects } below
        rw [only, List.mem_singleton] at member
        rw [member]
        rfl
    fresh := by
      intro keyframes requests rebuilding lowered quiet
      have fresh := consistent.fresh keyframes requests rebuilding lowered quiet
      refine ⟨?_, by simp [KeyframeCommit.announced], ?_, fresh.requests⟩
      · intro id new other
        have differs : self.lastKeyframeId + 1 ≠ id := other _ rfl
        rw [named_concat_of_ne differs]
        exact fresh.committed id new (free id)
      · rintro job ⟨⟩ - keyframe member
        have only := @named_concat_self self.keyframes
          { id := self.lastKeyframeId + 1, pose, cloud := ground ++ objects } below
        rw [only, List.mem_singleton] at member
        rw [member]
        rfl
    older := fun keyframes requests rebuilding keyframe member =>
      Nat.le_succ_of_le (consistent.older keyframes requests rebuilding keyframe member) }

variable {job : KeyframeJob}

theorem Consistent.setLayers (now : self.commit = .setLayers job) :
    (self.setLastKeyFrameLayers job).Consistent config generation := by
  have own : job ∈ self.commit.job := by simp [now, KeyframeCommit.job]
  have free {id : Nat} (other : job.id ≠ id) : ∀ held ∈ self.commit.job, held.id ≠ id := by
    simpa [now, KeyframeCommit.job] using other
  obtain ⟨isLast, isNew, older, keyframe, listed, same, below, cloud, -⟩ :=
    consistent.committing job own
  have belowSelf : ∀ other ∈ older, other.id < keyframe.id := same ▸ below
  unfold setLastKeyFrameLayers
  simp only [listed, List.dropLast_concat, List.getLast?_concat, Option.map_some,
    Option.toList_some]
  -- The keyframe keeps its name and its pose.
  obtain ⟨replaced, meaning⟩ : ∃ replaced : KeyFrame, replaced =
    { keyframe with
      groundPoints := some job.ground, objectsFiltered := some job.objects } := ⟨_, rfl⟩
  rw [← meaning]
  have kept : replaced.id = keyframe.id := by rw [meaning]
  have others {id : Nat} (other : job.id ≠ id) :
      named (older ++ [replaced]) id = named self.keyframes id := by
    have differs : keyframe.id ≠ id := same ▸ other
    rw [listed, named_concat_of_ne differs, named_concat_of_ne (kept ▸ differs)]
  have onlyBefore : named self.keyframes job.id = [keyframe] := by
    rw [listed, ← same, named_concat_self belowSelf]
  have onlyAfter : named (older ++ [replaced]) job.id = [replaced] := by
    rw [← same, ← kept, named_concat_self (kept ▸ belowSelf)]
  have pose : replaced.currentPose = keyframe.currentPose := by rw [meaning]; rfl
  exact { consistent with
    known := by
      intro other member
      rcases List.mem_append.mp member with before | last
      · exact consistent.known other (listed ▸ List.mem_append_left _ before)
      · rw [List.mem_singleton] at last
        rw [last, kept]
        exact consistent.known keyframe (listed ▸ List.mem_append_right _ List.mem_cons_self)
    finished := by
      intro id new bounded other
      have other : job.id ≠ id := other job rfl
      rw [others other]
      exact consistent.finished id new bounded (free other)
    committing := by
      rintro held ⟨⟩
      have layered : replaced.LayeredBy job.ground job.objects := by
        rw [meaning]
        exact ⟨cloud, rfl, rfl⟩
      exact ⟨isLast, isNew, older, replaced, rfl, kept.trans same, below, layered.1,
        fun _ => layered⟩
    right := by
      intro quiet requested
      have right := consistent.right quiet requested
      refine ⟨?_, ?_, ?_, right.requests⟩
      · intro layer id new other
        have other : job.id ≠ id := other job rfl
        rw [others other]
        exact right.committed layer id new (free other)
      · rintro held ⟨⟩ layer
        exact right.absent job own layer
      · rintro held ⟨⟩ other member
        rw [onlyAfter, List.mem_singleton] at member
        rw [member, pose]
        exact right.inPlace job own keyframe (by simp [onlyBefore])
    fresh := by
      intro keyframes requests rebuilding lowered quiet
      have fresh := consistent.fresh keyframes requests rebuilding lowered quiet
      refine ⟨?_, by simp [KeyframeCommit.announced], ?_, fresh.requests⟩
      · intro id new other
        have other : job.id ≠ id := other job rfl
        rw [others other]
        exact fresh.committed id new (free other)
      · rintro held ⟨⟩ missing other member
        rw [onlyAfter, List.mem_singleton] at member
        rw [member, pose]
        exact fresh.inPlace job own missing keyframe (by simp [onlyBefore]) }

theorem Consistent.goOn {commit : KeyframeCommit} {pending : Bool}
    (sameJob : self.commit.job = some job) (keeps : commit.job = some job)
    (layered : self.commit.layered = true) (lowered : pending = false → self.pending = false)
    (announced : commit.announced = true → pending = false → self.rebuild.quiet = true) :
    { self with commit, pending }.Consistent config generation := by
  have held : commit.job = self.commit.job := keeps.trans sameJob.symm
  exact { consistent with
    finished := by
      intro id new bounded other
      exact consistent.finished id new bounded (held ▸ other)
    committing := by
      intro other member
      have committing := consistent.committing other (held ▸ member)
      obtain ⟨older, keyframe, listed, same, below, cloud, complete⟩ := committing.listed
      exact ⟨committing.isLast, committing.isNew, older, keyframe, listed, same, below, cloud,
        fun _ => complete layered⟩
    right := by
      intro quiet requested
      have right := consistent.right quiet requested
      exact ⟨fun layer id new other => right.committed layer id new (held ▸ other),
        fun other member => right.absent other (held ▸ member),
        fun other member => right.inPlace other (held ▸ member), right.requests⟩
    fresh := by
      intro keyframes requests rebuilding down quiet
      have fresh := consistent.fresh keyframes requests rebuilding (lowered down) quiet
      refine ⟨fun id new other => fresh.committed id new (held ▸ other), ?_,
        fun other member => fresh.inPlace other (held ▸ member), fresh.requests⟩
      intro told
      have done := announced told down
      rw [show self.rebuild = _ from rebuilding] at done
      cases done }

theorem Consistent.append (now : self.commit = .append job) :
    { self with
      layers := self.layers.commit config job, commit := .idle }.Consistent config generation := by
  have own : job ∈ self.commit.job := by simp [now, KeyframeCommit.job]
  have free {id : Nat} (other : job.id ≠ id) : ∀ held ∈ self.commit.job, held.id ≠ id := by
    simpa [now, KeyframeCommit.job] using other
  obtain ⟨isLast, isNew, older, keyframe, listed, same, below, cloud, complete⟩ :=
    consistent.committing job own
  have layered := complete (by simp [now, KeyframeCommit.layered])
  have only : named self.keyframes job.id = [keyframe] := by
    rw [listed, ← same, named_concat_self (same ▸ below)]
  exact { consistent with
    finished := by
      intro id new bounded _
      by_cases other : job.id = id
      · exact other ▸ ⟨keyframe, job.ground, job.objects, only, layered⟩
      · exact consistent.finished id new bounded (free other)
    committing := by simp [KeyframeCommit.job]
    right := by
      intro quiet requested
      have right := consistent.right quiet requested
      refine ⟨fun layer id new _ => ?_, by simp [KeyframeCommit.job], by simp [KeyframeCommit.job],
        right.requests⟩
      rw [commit_pointsOf]
      by_cases other : job.id = id
      · -- The points are placed where the keyframe is.
        subst other
        have inPlace := right.inPlace job own keyframe (by simp [only])
        have placed := @KeyFrame.LayeredBy.placedIn_eq config _ _ _ layered
        rw [right.absent job own layer, if_pos rfl, only, List.nil_append, List.flatMap_singleton,
          ← inPlace]
        cases layer with
        | ground => exact placed.1.symm
        | objects => exact placed.2.symm
      · rw [if_neg other, List.append_nil]
        exact right.committed layer id new (free other)
    fresh := by
      intro keyframes requests rebuilding lowered quiet
      have fresh := consistent.fresh keyframes requests rebuilding lowered quiet
      refine ⟨fun id new _ => ?_, by simp [KeyframeCommit.announced], by simp [KeyframeCommit.job],
        fresh.requests⟩
      by_cases other : job.id = id
      · exact other ▸ fresh.announced (by simp [now, KeyframeCommit.announced]) job own
      · exact fresh.committed id new (free other) }

theorem Consistent.commitStep :
    (self.commitStep config).Consistent config generation := by
  unfold GlobalMap.commitStep
  split <;> rename_i now
  · exact consistent
  · exact consistent.setLayers now
  · -- A running rebuild will be told; where none runs, none is about to swap layers in.
    rename_i job
    have sameJob : self.commit.job = some job := by simp [now, KeyframeCommit.job]
    refine consistent.goOn sameJob ?_ (by simp [now, KeyframeCommit.layered]) id ?_
    · split_ifs <;> rfl
    · by_cases running : self.running = true
      · simp [running, KeyframeCommit.announced]
      · intro _ _
        have absent : self.rebuild = .absent := by
          by_contra busy
          exact running (consistent.running busy)
        simp [absent, GlobalRebuild.quiet]
  · rename_i job
    exact consistent.goOn (by simp [now, KeyframeCommit.job]) rfl
      (by simp [now, KeyframeCommit.layered]) (by simp) (by simp)
  · exact consistent.append now

end

/-! ### Requests -/

theorem named_map {keyframes : List KeyFrame} {move : KeyFrame → KeyFrame} {id : Nat}
    (kept : ∀ keyframe, (move keyframe).id = keyframe.id) :
    named (keyframes.map move) id = (named keyframes id).map move := by
  unfold named
  rw [List.filter_map]
  congr 1
  refine List.filter_congr fun keyframe _ => ?_
  simp [kept]

section

variable (consistent : self.Consistent config generation)
include consistent

theorem Consistent.movePoses (now : self.request = .idle)
    (optimized : KeyFrame → Isometry × Option Isometry) :
    (self.movePoses optimized).callRebuild.Consistent config generation where
  known := by
    intro keyframe member
    obtain ⟨original, listed, rfl⟩ := List.mem_map.mp member
    exact consistent.known original listed
  grown := consistent.grown
  finished := by
    intro id new bounded other
    obtain ⟨keyframe, ground, objects, only, layered⟩ :=
      consistent.finished id new bounded other
    refine ⟨keyframe.movedBy optimized, ground, objects, ?_, layered⟩
    simp only [callRebuild, GlobalMap.movePoses]
    have kept (other : KeyFrame) : (other.movedBy optimized).id = other.id := rfl
    rw [named_map kept, only, List.map_singleton]
  committing := by
    intro job member
    obtain ⟨isLast, isNew, older, keyframe, listed, same, below, cloud, complete⟩ :=
      consistent.committing job member
    refine ⟨isLast, isNew, older.map (·.movedBy optimized), keyframe.movedBy optimized, ?_, same,
      ?_, cloud, complete⟩
    · simp only [callRebuild, GlobalMap.movePoses, listed, List.map_append, List.map_singleton]
    · intro other moved
      obtain ⟨original, before, rfl⟩ := List.mem_map.mp moved
      exact below original before
  right := by simp [callRebuild]
  fresh := by simp [callRebuild, RebuildRequest.asks]
  older := consistent.older
  running := consistent.running
  stopped absent running := by
    have starting := consistent.stopped absent running
    simp [now] at starting
  starting := by simp [callRebuild, RebuildRequest.starts]
  started := by simp [callRebuild]

theorem Consistent.callRebuild (now : self.request = .idle) :
    self.callRebuild.Consistent config generation where
  known := consistent.known
  grown := consistent.grown
  finished := consistent.finished
  committing job member := by
    have committing := consistent.committing job member
    exact ⟨committing.isLast, committing.isNew, committing.listed⟩
  right := by simp [GlobalMap.callRebuild]
  fresh := by simp [GlobalMap.callRebuild, RebuildRequest.asks]
  older := consistent.older
  running := consistent.running
  stopped absent running := by
    have starting := consistent.stopped absent running
    simp [now] at starting
  starting := by simp [GlobalMap.callRebuild, RebuildRequest.starts]
  started := by simp [GlobalMap.callRebuild]

theorem Consistent.goOnRebuild
    {request : RebuildRequest} {rebuild : GlobalRebuild} {running pending : Bool}
    (right : rebuild.quiet = true → request = .idle →
      Right config generation { self with request, rebuild, running, pending })
    (fresh : ∀ keyframes requests, rebuild = .swap keyframes requests → pending = false →
      request.asks = false →
        Fresh generation { self with request, rebuild, running, pending } keyframes requests)
    (older : ∀ keyframes requests, rebuild = .swap keyframes requests →
      ∀ keyframe ∈ keyframes, keyframe.id ≤ self.lastKeyframeId)
    (runs : rebuild ≠ .absent → running = true)
    (stopped : rebuild = .absent → running = true → request = .clearPending ∨ request = .spawn)
    (starting : request.starts = true → rebuild = .absent)
    (started : request = .clearPending ∨ request = .spawn → running = true) :
    { self with request, rebuild, running, pending }.Consistent config generation where
  known := consistent.known
  grown := consistent.grown
  finished := consistent.finished
  committing job member := by
    have committing := consistent.committing job member
    exact ⟨committing.isLast, committing.isNew, committing.listed⟩
  right := right
  fresh := fresh
  older := older
  running := runs
  stopped := stopped
  starting := starting
  started := started

theorem Consistent.requestStep (inTime : self.request = .setPending → self.rebuild.quiet = false) :
    self.requestStep.Consistent config generation := by
  unfold GlobalMap.requestStep
  split <;> rename_i now
  · exact consistent
  · -- A rebuild that runs is told, and otherwise another one is started.
    by_cases running : self.running = true
    · simp only [running, if_true]
      exact consistent.goOnRebuild (by simp) (by simp [RebuildRequest.asks]) consistent.older
        (by simp) (fun absent _ => by simpa [now] using consistent.stopped absent running)
        (by simp [RebuildRequest.starts]) (by simp)
    · have absent : self.rebuild = .absent := by
        by_contra busy
        exact running (consistent.running busy)
      simp only [running, Bool.false_eq_true, if_false]
      exact consistent.goOnRebuild (by simp) (by simp [absent]) consistent.older
        (by simp [absent]) (by simp) (by simp [RebuildRequest.starts]) (by simp)
  · -- The rebuild tests the flag once more.
    have busy := inTime now
    refine consistent.goOnRebuild (by simp [busy]) (by simp) consistent.older consistent.running
      ?_ (by simp [RebuildRequest.starts]) (by simp)
    intro absent
    simp [absent, GlobalRebuild.quiet] at busy
  · split
    · rename_i absent
      exact consistent.goOnRebuild (by simp) (by simp [absent]) consistent.older (by simp [absent])
        (fun _ running => by simpa [now] using consistent.stopped absent running)
        (by simp [absent]) (by simp)
    · exact consistent
  · have absent := consistent.starting (by simp [now, RebuildRequest.starts])
    exact consistent.goOnRebuild (by simp) (by simp [absent]) consistent.older (by simp) (by simp)
      (by simp [absent]) (by simp)
  · have absent := consistent.starting (by simp [now, RebuildRequest.starts])
    have running := consistent.started (.inl now)
    exact consistent.goOnRebuild (by simp) (by simp [absent]) consistent.older (by simp [running])
      (by simp) (by simp [absent]) (by simp [running])
  · have running := consistent.started (.inr now)
    exact consistent.goOnRebuild (by simp [GlobalRebuild.quiet]) (by simp) (by simp)
      (by simp [running]) (by simp) (by simp [RebuildRequest.starts]) (by simp)

end

/-! ### Rebuilds -/

theorem Fresh.right {keyframes : List KeyFrame} {requests : Nat}
    (fresh : Fresh generation self keyframes requests)
    (missing : ∀ job ∈ self.commit.job, named keyframes job.id = []) :
    Right config generation (self.swapLayers config keyframes requests) where
  committed layer id new other := by
    have same := fresh.committed id new other
    simp only [swapLayers, rebuild_pointsOf, same]
  absent job member layer := by
    have nothing := missing job member
    simp only [swapLayers, rebuild_pointsOf, nothing, List.flatMap_nil]
  inPlace job member := fresh.inPlace job member (missing job member)
  requests := fresh.requests

theorem Consistent.swapLayers (consistent : self.Consistent config generation)
    {keyframes : List KeyFrame} {requests : Nat} (now : self.rebuild = .swap keyframes requests)
    (lowered : self.pending = false)
    (missing : ∀ job ∈ self.commit.job, named keyframes job.id = []) :
    (self.swapLayers config keyframes requests).Consistent config generation where
  known := consistent.known
  grown := consistent.grown
  finished := consistent.finished
  committing job member := by
    have committing := consistent.committing job member
    exact ⟨committing.isLast, committing.isNew, committing.listed⟩
  right _ requested := by
    have idle : self.request = .idle := requested
    exact (consistent.fresh keyframes requests now lowered
      (by simp [idle, RebuildRequest.asks])).right missing
  fresh := by simp [GlobalMap.swapLayers]
  older := by simp [GlobalMap.swapLayers]
  running _ := consistent.running (by simp [now])
  stopped := by simp [GlobalMap.swapLayers]
  starting starts := by
    have absent := consistent.starting starts
    simp [now] at absent
  started := consistent.started

theorem Consistent.rebuildStep (consistent : self.Consistent config generation)
    (missing : ∀ keyframes requests, self.rebuild = .swap keyframes requests →
      self.pending = false → ∀ job ∈ self.commit.job, named keyframes job.id = []) :
    (self.rebuildStep config).Consistent config generation := by
  -- A rebuild that is under way stands against every start of another one.
  have starting {rebuild : GlobalRebuild} (busy : self.rebuild ≠ .absent) :
      self.request.starts = true → rebuild = .absent :=
    fun starts => absurd (consistent.starting starts) busy
  unfold GlobalMap.rebuildStep
  split <;> rename_i now
  · exact consistent
  · have running := consistent.running (by simp [now])
    exact consistent.goOnRebuild (by simp [GlobalRebuild.quiet]) (by simp) (by simp)
      (by simp [running]) (by simp) (starting (by simp [now])) consistent.started
  · have running := consistent.running (by simp [now])
    refine consistent.goOnRebuild (by simp [GlobalRebuild.quiet]) ?_ ?_ (by simp [running])
      (by simp) (starting (by simp [now])) consistent.started
    · -- The keyframes are those of this moment.
      rintro keyframes requests ⟨⟩ - -
      refine ⟨fun _ _ _ => rfl, fun _ _ _ => rfl, ?_, rfl⟩
      intro job _ nothing keyframe member
      rw [show named self.keyframes job.id = [] from nothing] at member
      cases member
    · rintro keyframes requests ⟨⟩
      exact consistent.known
  · have running := consistent.running (by simp [now])
    by_cases pending : self.pending = true
    · rw [if_pos pending]
      exact consistent.goOnRebuild (by simp [GlobalRebuild.quiet]) (by simp) (by simp)
        (by simp [running]) (by simp) (starting (by simp [now])) consistent.started
    · rw [if_neg pending]
      have lowered : self.pending = false := by simpa using pending
      exact consistent.swapLayers now lowered (missing _ _ now lowered)
  · have quiet : self.rebuild.quiet = true := by simp [now, GlobalRebuild.quiet]
    refine consistent.goOnRebuild ?_ (by simp) (by simp) (by simp) (by simp) (by simp) ?_
    · intro _ requested
      have right := consistent.right quiet requested
      exact ⟨right.committed, right.absent, right.inPlace, right.requests⟩
    · intro starts
      have absent := consistent.starting (by rcases starts with now | now <;> rw [now] <;> rfl)
      simp [now] at absent

theorem Consistent.step (consistent : self.Consistent config generation) (call : GlobalMapStep)
    (undisturbed : Undisturbed config ⟨self, call⟩) :
    (self.step config call).Consistent config generation := by
  cases call with
  | addKeyFrame accepted pose ground objects =>
    simp only [GlobalMap.step]
    split
    · rename_i now
      cases accepted with
      | false => exact consistent
      | true =>
        exact consistent.addKeyFrame now (undisturbed.room pose ground objects rfl now) pose ground
          objects
    · exact consistent
  | commit => exact consistent.commitStep
  | applyOptimizedPoses optimized =>
    simp only [GlobalMap.step]
    split
    · rename_i now
      exact consistent.movePoses now optimized
    · exact consistent
  | asyncRebuildGlobalMap =>
    simp only [GlobalMap.step]
    split
    · rename_i now
      exact consistent.callRebuild now
    · exact consistent
  | request => exact consistent.requestStep (undisturbed.inTime rfl)
  | rebuild =>
    exact consistent.rebuildStep fun keyframes requests => undisturbed.swap keyframes requests rfl

theorem consistent_start : (globalMap config generation).start.Consistent config generation := by
  have unnamed {id : Nat} (new : generation.lastKeyframeId < id) :
      named generation.keyframes id = [] := named_eq_nil generation.numbered new
  exact {
    known := generation.numbered
    grown := Nat.le_refl _
    finished := fun id new bounded => absurd bounded (Nat.not_le.mpr new)
    committing := by simp [globalMap, KeyframeCommit.job]
    right := by
      intro _ _
      refine ⟨fun layer id new _ => ?_, by simp [globalMap, KeyframeCommit.job],
        by simp [globalMap, KeyframeCommit.job], rfl⟩
      simp only [globalMap, unnamed new, List.flatMap_nil]
      -- No point of the layers comes from a new keyframe.
      cases layer with
      | ground =>
        refine List.map_eq_nil_iff.mpr (List.filter_eq_nil_iff.mpr fun point member same => ?_)
        have bounded := generation.ground point member
        have equal : point.source = id := by simpa using same
        omega
      | objects =>
        refine List.map_eq_nil_iff.mpr (List.filter_eq_nil_iff.mpr fun point member same => ?_)
        have bounded := generation.objects point member
        have equal : point.source = id := by simpa using same
        omega
    fresh := by simp [globalMap]
    older := by simp [globalMap]
    running := by simp [globalMap]
    stopped := by simp [globalMap]
    starting := by simp [globalMap, RebuildRequest.starts]
    started := by simp [globalMap] }

theorem consistent_run {calls : List GlobalMapStep}
    (undisturbed : ∀ event ∈ (globalMap config generation).trace calls,
      Undisturbed config event) :
    ((globalMap config generation).run calls).Consistent config generation := by
  -- Each step keeps what the earlier ones have left.
  induction calls with
  | nil => exact consistent_start
  | cons call older ih =>
    obtain ⟨latest, earlier⟩ := List.forall_mem_cons.mp undisturbed
    exact (ih earlier).step call latest

/-- After an undisturbed run, every keyframe is in the layers once where nothing is in progress. -/
theorem rebuild_keeps_keyframes {calls : List GlobalMapStep}
    (undisturbed : ∀ event ∈ (globalMap config generation).trace calls,
      Undisturbed config event)
    (committed : ((globalMap config generation).run calls).commit = .idle)
    (requested : ((globalMap config generation).run calls).request = .idle)
    (rebuilt : ((globalMap config generation).run calls).rebuild = .absent) :
    ((globalMap config generation).run calls).Complete config generation :=
  (consistent_run undisturbed).complete committed requested rebuilt

def calm (config : GlobalMapConfig) (event : GlobalMapEvent) : Bool :=
  match event.call with
  | .addKeyFrame true _ _ _ => event.before.commit.job.isSome || !event.before.full config
  | .request => event.before.request != .setPending || !event.before.rebuild.quiet
  | .rebuild =>
    match event.before.rebuild with
    | .swap keyframes _ =>
      event.before.pending ||
        event.before.commit.job.all fun job => (named keyframes job.id).isEmpty
    | _ => true
  | _ => true

theorem undisturbed_of_calm {event : GlobalMapEvent} (rests : calm config event = true) :
    Undisturbed config event := by
  unfold calm at rests
  refine ⟨?_, ?_, ?_⟩
  · intro pose ground objects called now
    simpa [called, now, KeyframeCommit.job] using rests
  · intro keyframes requests called now lowered job member
    have held : event.before.commit.job = some job := member
    simpa [called, now, lowered, held] using rests
  · intro called now
    simpa [called, now] using rests

def plainMap : GlobalMapConfig where
  maxMapSize := 100
  separateGroundByGrid cloud := ([], cloud)

def emptyGeneration : MapGeneration where
  numbered := by simp
  ground := by simp
  objects := by simp

def startRebuild : List GlobalMapStep :=
  [.request, .request, .request, .request, .request, .asyncRebuildGlobalMap]

def commitThenRebuild : List GlobalMapStep :=
  [.rebuild, .rebuild, .rebuild, .rebuild] ++ startRebuild ++
    [.commit, .commit, .commit, .addKeyFrame true {} [⟨1, 0, 0⟩] [⟨1, 0, 1⟩]]

theorem commit_then_rebuild_complete :
    ((globalMap plainMap emptyGeneration).run commitThenRebuild).Complete plainMap
      emptyGeneration :=
  rebuild_keeps_keyframes
    (fun event member => undisturbed_of_calm
      ((by decide : ∀ event ∈ (globalMap plainMap emptyGeneration).trace commitThenRebuild,
        calm plainMap event = true) event member)) rfl rfl rfl

def rebuildDuringCommit : List GlobalMapStep :=
  [.commit, .commit] ++ [.rebuild, .rebuild, .rebuild, .rebuild] ++ startRebuild ++
    [.commit, .addKeyFrame true {} [] [⟨1, 0, 1⟩]]

/-- Nothing is in progress any more, and the points of such a keyframe are in the map twice. -/
theorem rebuild_during_commit_doubles :
    ((globalMap plainMap emptyGeneration).run rebuildDuringCommit).commit = .idle ∧
      ((globalMap plainMap emptyGeneration).run rebuildDuringCommit).request = .idle ∧
      ((globalMap plainMap emptyGeneration).run rebuildDuringCommit).rebuild = .absent ∧
      ((globalMap plainMap emptyGeneration).run rebuildDuringCommit).layers.pointsOf .objects 1 =
        [⟨1, 0, 1⟩, ⟨1, 0, 1⟩] ∧
      ¬((globalMap plainMap emptyGeneration).run rebuildDuringCommit).Complete plainMap
        emptyGeneration := by
  have doubled : ((globalMap plainMap emptyGeneration).run
      rebuildDuringCommit).layers.pointsOf .objects 1 = [⟨1, 0, 1⟩, ⟨1, 0, 1⟩] := by
    with_unfolding_all decide
  refine ⟨rfl, rfl, rfl, doubled, fun complete => ?_⟩
  obtain ⟨keyframe, ground, objects, only, -, filtered, -, placed⟩ :=
    complete.everyKeyframe 1 (by decide) (by decide)
  have clouds : (named ((globalMap plainMap emptyGeneration).run rebuildDuringCommit).keyframes
      1).map (·.objectsFiltered) = [some [⟨1, 0, 1⟩]] := rfl
  rw [only, List.map_singleton, filtered] at clouds
  obtain rfl : objects = [⟨1, 0, 1⟩] := by simpa using clouds
  -- A keyframe with one point has at most one place in the map.
  have few : (plainMap.placed keyframe.currentPose [⟨1, 0, 1⟩]).length ≤ 1 :=
    List.length_filter_le _ _
  rw [← placed, doubled] at few
  exact absurd few (by decide)

end GlobalMap
end NdtSlam
