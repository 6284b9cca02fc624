import NdtSlam.StaticEvidence.RoundTrip

/-! What readers of the published snapshot see, and what a refused installation leaves behind. -/

namespace NdtSlam

open StaticObstacleEvidenceIndex

variable {format : CsvFormat} {index : StaticObstacleEvidenceIndex} {call : IndexCall format}

def StaticEvidenceSnapshot.Confirmed (snapshot : StaticEvidenceSnapshot) : Prop :=
  ∀ (key : Int) (cell : StaticEvidenceCell), snapshot.cells[key]? = some cell →
    cell.cleanMapConfirmed = true

/-- Readers see the state under its own generation, authority and revision. -/
structure PublishedHeader (published : StaticObstacleEvidenceIndex) : Prop where
  generation : published.snapshot.mapGeneration = published.workingGeneration
  authority : published.snapshot.authority = published.authority
  revision : published.snapshot.revision = published.revision

def MirrorsConfirmed (published : StaticObstacleEvidenceIndex) : Prop :=
  ∀ key : Int, published.snapshot.cells[key]? =
    (published.workingCells[key]?).filter fun cell => cell.cleanMapConfirmed

/-- A state that is installed ready-made was prepared from a candidate, by this or another index. -/
def IndexCall.HandsPrepared : IndexCall format → Prop
  | .installPreparedSnapshot prepared _ =>
    ∃ (maker : StaticObstacleEvidenceIndex) (candidate : StaticEvidenceSnapshot) (current : Nat),
      maker.prepareSnapshotInstall candidate current = .ok prepared
  | _ => True

def IndexCall.HandsConfirmed : IndexCall format → Prop
  | .restoreSnapshotWithoutRevisionIncrement candidate _ => candidate.Confirmed
  | .installPreparedSnapshot prepared _ => prepared.snapshot.Confirmed
  | _ => True

def IndexCall.Replaces (index : StaticObstacleEvidenceIndex) : IndexCall format → Prop
  | .setConfig _ => True
  | call => (call.installs index).isSome = true

inductive Publication (before after : StaticObstacleEvidenceIndex) : Prop where
  | silent (snapshot : after.snapshot = before.snapshot)
      (revision : after.revision = before.revision)
  | published (revision : after.revision = nextCounter before.revision)
      (shown : after.snapshot.revision = after.revision)
      (grows : before.revision + 1 < 2 ^ 64 → before.revision < after.revision)

/-! ### What one call publishes -/

inductive PublicationCourse (index : StaticObstacleEvidenceIndex) (call : IndexCall format) :
    StaticObstacleEvidenceIndex → Prop where
  | silent {after : StaticObstacleEvidenceIndex} (snapshot : after.snapshot = index.snapshot)
      (generation : after.workingGeneration = index.workingGeneration)
      (authority : after.authority = index.authority) (revision : after.revision = index.revision) :
      PublicationCourse index call after
  | published (base : StaticObstacleEvidenceIndex) (stampSec : Scalar)
      (revision : base.revision = index.revision) :
      PublicationCourse index call (base.publishSnapshot stampSec)
  | installed (prepared : PreparedStaticEvidenceInstall)
      (installs : call.installs index = some prepared) :
      PublicationCourse index call (index.installPreparedSnapshot prepared 0)
  | configured (config : StaticObstacleEvidenceConfig) (hands : call = .setConfig config) :
      PublicationCourse index call (setConfig config)

variable {after : StaticObstacleEvidenceIndex}

theorem PublicationCourse.ofSame (same : SameEvidence index after) :
    PublicationCourse index call after :=
  .silent same.snapshot same.workingGeneration same.authority same.revision

theorem digestBuild_revision (build : CleanBuild) :
    (index.digestBuild build).index.revision = index.revision := by
  unfold digestBuild
  refine (foldl_view_const (observeOccupiedCell build)
    (fun progress => progress.index.revision) ?_ _ _).trans
    (foldl_view_const (observeFreeCell build) (fun progress => progress.index.revision) ?_ _ _)
  · intro progress item
    unfold observeOccupiedCell
    split_ifs <;> rfl
  · intro progress key
    unfold observeFreeCell
    split_ifs <;> rfl

theorem invalidateAll_revision (cells : CellKeySet) (version : Nat) :
    (index.invalidateAll cells version).revision = index.revision :=
  foldl_view_const (invalidateCell version) StaticObstacleEvidenceIndex.revision
    (fun _ _ => rfl) _ _

theorem confirmCells_revision (clean : CleanMap) (start : StaticObstacleEvidenceIndex × Nat) :
    (clean.cleanCells.toList.foldl (confirmCell clean) start).1.revision = start.1.revision := by
  refine foldl_view_const (confirmCell clean) (·.1.revision) ?_ _ _
  intro progress item
  unfold confirmCell
  simp only
  split_ifs <;> rfl

theorem observe_publication (build : CleanBuild) :
    PublicationCourse index call (index.observeCleanBuildCells build).1 := by
  by_cases accepted : index.acceptsBuild build = true
  · rcases observe_accepted index build accepted with result | ⟨-, -, result⟩
    · rw [result]
      exact .published _ _ (digestBuild_revision build)
    · rw [result]
      exact .silent rfl rfl rfl rfl
  · exact .ofSame (observe_rejected index build (by simpa using accepted))

theorem invalidate_publication (cells : CellKeySet) (version : Nat) (stampSec : Scalar)
    (mapGeneration : Nat) :
    PublicationCourse index call
      (index.invalidateCells cells version stampSec mapGeneration).1 := by
  by_cases accepted : version ≠ 0 ∧ index.workingGeneration = mapGeneration
  · rw [invalidate_accepted index accepted.1 accepted.2]
    cases empty : cells.isEmpty with
    | true =>
      -- An empty set of cells changes nothing.
      rw [if_pos rfl, Std.ExtTreeSet.isEmpty_iff.mp empty]
      exact .silent rfl rfl rfl rfl
    | false =>
      rw [if_neg (by simp)]
      exact .published _ _ (invalidateAll_revision cells version)
  · exact .ofSame (invalidate_rejected index accepted)

theorem confirm_publication (clean : CleanMap) :
    PublicationCourse index call (index.confirmCleanCells clean).1 := by
  by_cases accepted : clean.cleanBuildVersion ≠ 0 ∧ index.workingGeneration = clean.mapGeneration
  · rw [confirm_accepted index accepted.1 accepted.2]
    exact .published _ _ ((confirmCells_revision clean _).trans (invalidateAll_revision _ _))
  · exact .ofSame (confirm_rejected index accepted)

theorem install_publication
    (result : after = match call.installs index with
      | some prepared => index.installPreparedSnapshot prepared 0
      | none => index) : PublicationCourse index call after := by
  cases installed : call.installs index with
  | some prepared =>
    rw [installed] at result
    rw [result]
    exact .installed prepared installed
  | none =>
    rw [installed] at result
    rw [result]
    exact .silent rfl rfl rfl rfl

theorem indexStep_publication (index : StaticObstacleEvidenceIndex) (call : IndexCall format) :
    PublicationCourse index call (indexStep index call).1 := by
  cases call with
  | setConfig config => exact .configured config rfl
  | reset mapGeneration => exact .published _ 0 rfl
  | observeFilteredCells cells stampSec mapGeneration objectsVersion => exact observe_publication _
  | observeCleanBuildCells build => exact observe_publication build
  | invalidateCells cells version stampSec mapGeneration =>
    exact invalidate_publication cells version stampSec mapGeneration
  | confirmCleanCells clean => exact confirm_publication clean
  | setSnapshotAuthority authority => exact .published _ _ rfl
  | loadSnapshot file current source revision =>
    exact install_publication (loadSnapshot_eq index file current source revision)
  | restoreSnapshotWithoutRevisionIncrement candidate current =>
    exact install_publication (restore_eq index candidate current)
  | installPreparedSnapshot prepared current =>
    exact .installed (prepared.installedAs current) rfl

/-! ### What is installed -/

variable {snapshot : StaticEvidenceSnapshot}

theorem StaticEvidenceSnapshot.Confirmed.adopt (confirmed : snapshot.Confirmed) (generation : Nat) :
    (snapshot.adopt generation).Confirmed := by
  intro key cell shown
  unfold StaticEvidenceSnapshot.adopt StaticEvidenceSnapshot.adoptedCells at shown
  rw [Std.ExtTreeMap.getElem?_map] at shown
  -- The generation is the only field that changes.
  obtain ⟨original, found, rfl⟩ := Option.map_eq_some_iff.mp shown
  exact confirmed key original found

variable {prepared : PreparedStaticEvidenceInstall} {candidate : StaticEvidenceSnapshot}

theorem authority_ofPrepared {current : Nat}
    (prepares : index.prepareSnapshotInstall candidate current = .ok prepared) :
    prepared.snapshot.authority = prepared.authority := by
  unfold prepareSnapshotInstall at prepares
  split at prepares
  · cases prepares
  · obtain rfl := Except.ok.inj prepares
    rfl

theorem authority_installedAs (authority : prepared.snapshot.authority = prepared.authority)
    (current : Nat) :
    (prepared.installedAs current).snapshot.authority
      = (prepared.installedAs current).authority := by
  unfold PreparedStaticEvidenceInstall.installedAs
  split_ifs
  · exact authority
  · exact authority

theorem StaticEvidenceSnapshot.Confirmed.installedAs (confirmed : prepared.snapshot.Confirmed)
    (current : Nat) :
    (prepared.installedAs current).snapshot.Confirmed := by
  unfold PreparedStaticEvidenceInstall.installedAs
  split_ifs
  · exact confirmed.adopt current
  · exact confirmed

theorem prepared_ofOption {current : Nat}
    (prepares : (index.prepareSnapshotInstall candidate current).toOption = some prepared) :
    index.prepareSnapshotInstall candidate current = .ok prepared := by
  cases result : index.prepareSnapshotInstall candidate current with
  | error reason =>
    rw [result] at prepares
    cases prepares
  | ok other =>
    rw [result] at prepares
    exact congrArg Except.ok (Option.some.inj prepares)

theorem installs_confirmed {file : Option (List format.Line)} {current source revision : Nat}
    (installs : (IndexCall.loadSnapshot file current source revision).installs index
      = some prepared) :
    prepared.snapshot.Confirmed := by
  intro key cell shown
  exact ((installs_loadable installs).cells key cell shown).2

theorem installs_authority (hands : call.HandsPrepared)
    (installs : call.installs index = some prepared) :
    prepared.snapshot.authority = prepared.authority := by
  cases call with
  | loadSnapshot file current source revision =>
    simp only [IndexCall.installs] at installs
    split at installs
    · exact authority_ofPrepared (prepared_ofOption installs)
    · cases installs
  | restoreSnapshotWithoutRevisionIncrement candidate current =>
    exact authority_ofPrepared (prepared_ofOption installs)
  | installPreparedSnapshot given current =>
    obtain ⟨maker, candidate, generation, prepares⟩ := hands
    obtain rfl := Option.some.inj installs
    exact authority_installedAs (authority_ofPrepared prepares) current
  | _ => cases installs

theorem installs_handedConfirmed (hands : call.HandsConfirmed)
    (installs : call.installs index = some prepared) :
    prepared.snapshot.Confirmed := by
  cases call with
  | loadSnapshot file current source revision => exact installs_confirmed installs
  | restoreSnapshotWithoutRevisionIncrement candidate current =>
    rw [(prepareSnapshotInstall_ok (prepared_ofOption installs)).1]
    exact StaticEvidenceSnapshot.Confirmed.adopt hands current
  | installPreparedSnapshot given current =>
    obtain rfl := Option.some.inj installs
    exact StaticEvidenceSnapshot.Confirmed.installedAs hands current
  | _ => cases installs

/-! ### What readers see -/

theorem PublishedHeader.step (header : PublishedHeader index) (hands : call.HandsPrepared) :
    PublishedHeader (indexStep index call).1 := by
  have course := indexStep_publication index call
  generalize (indexStep index call).1 = after at course
  cases course with
  | silent snapshot generation authority revision =>
    refine ⟨?_, ?_, ?_⟩
    · rw [snapshot, generation, header.generation]
    · rw [snapshot, authority, header.authority]
    · rw [snapshot, revision, header.revision]
  | published => exact ⟨rfl, rfl, rfl⟩
  | installed prepared installs =>
    exact ⟨prepared.generation_agrees, installs_authority hands installs, prepared.revision_agrees⟩
  | configured => exact ⟨rfl, rfl, rfl⟩

theorem StaticEvidenceSnapshot.Confirmed.filter (confirmed : snapshot.Confirmed) (key : Int) :
    (snapshot.cells[key]?).filter (fun cell => cell.cleanMapConfirmed) = snapshot.cells[key]? := by
  cases shown : snapshot.cells[key]? with
  | none => rfl
  | some cell => exact if_pos (confirmed key cell shown)

theorem MirrorsConfirmed.step (mirrors : MirrorsConfirmed index)
    (hands : ∀ prepared, call.installs index = some prepared → prepared.snapshot.Confirmed) :
    MirrorsConfirmed (indexStep index call).1 := by
  intro key
  have before : index.snapshot.cells[key]? = (index.view key).published := mirrors key
  have change := indexStep_cell index call key
  show (indexStep index call).1.snapshot.cells[key]?
    = ((indexStep index call).1.view key).published
  generalize (indexStep index call).1.view key = after at change
  generalize (indexStep index call).1.snapshot.cells[key]? = shown at change
  cases change with
  | kept => exact before
  | emptied => rfl
  | adopted prepared installs =>
    exact ((hands prepared installs).filter key).symm
  | unpublished => exact before
  | digested | invalidated | confirmed | republished => rfl

theorem lt_nextCounter {counter : Nat} (below : counter + 1 < 2 ^ 64) :
    counter < nextCounter counter := by
  have small : (counter + 1) % 2 ^ 64 = counter + 1 := Nat.mod_eq_of_lt below
  unfold nextCounter
  rw [small, if_neg (by omega)]
  omega

theorem indexStep_revision (keeps : ¬call.Replaces index) :
    Publication index (indexStep index call).1 := by
  have course := indexStep_publication index call
  generalize (indexStep index call).1 = after at course
  cases course with
  | silent snapshot generation authority revision => exact .silent snapshot revision
  | published base stampSec revision =>
    have next : (base.publishSnapshot stampSec).revision = nextCounter index.revision :=
      congrArg nextCounter revision
    refine .published next rfl ?_
    intro below
    rw [next]
    exact lt_nextCounter below
  | installed prepared installs =>
    exfalso
    apply keeps
    cases call with
    | setConfig config => trivial
    | _ => exact Option.isSome_iff_exists.mpr ⟨prepared, installs⟩
  | configured config hands =>
    exfalso
    apply keeps
    rw [hands]
    trivial

theorem indexStep_refused {reason : String}
    (refused : (indexStep index call).2 = .restored (.error reason)) :
    (indexStep index call).1 = index := by
  -- Only a restoration answers with an outcome, and only after installing does it succeed.
  have restore : ∀ (candidate : StaticEvidenceSnapshot) (current : Nat),
      (index.restoreSnapshotWithoutRevisionIncrement candidate current).2 = .error reason →
      (index.restoreSnapshotWithoutRevisionIncrement candidate current).1 = index := by
    intro candidate current fails
    unfold restoreSnapshotWithoutRevisionIncrement at fails ⊢
    cases prepares : index.prepareSnapshotInstall candidate current with
    | error other => rfl
    | ok prepared =>
      rw [prepares] at fails
      cases fails
  cases call with
  | loadSnapshot file current source revision =>
    have fails := IndexAnswer.restored.inj refused
    show (loadSnapshot format index file current source revision).1 = index
    unfold loadSnapshot at fails ⊢
    cases read : loadSnapshotCandidate format index file source revision with
    | error other => rfl
    | ok candidate =>
      rw [read] at fails
      exact restore candidate current fails
  | restoreSnapshotWithoutRevisionIncrement candidate current =>
    exact restore candidate current (IndexAnswer.restored.inj refused)
  | _ => cases refused

/-- What readers see after every run, and what the next call does to it. -/
theorem published_view_agrees (config : StaticObstacleEvidenceConfig)
    (calls : List (IndexCall format))
    (prepared : ∀ event ∈ (indexMachine format config).trace calls, event.call.HandsPrepared) :
    PublishedHeader ((indexMachine format config).run calls) ∧
      ((∀ event ∈ (indexMachine format config).trace calls, event.call.HandsConfirmed) →
        MirrorsConfirmed ((indexMachine format config).run calls)) ∧
      ∀ call : IndexCall format,
        (¬call.Replaces ((indexMachine format config).run calls) →
          Publication ((indexMachine format config).run calls)
            (indexStep ((indexMachine format config).run calls) call).1) ∧
        ∀ reason, (indexStep ((indexMachine format config).run calls) call).2
            = .restored (.error reason) →
          (indexStep ((indexMachine format config).run calls) call).1
            = (indexMachine format config).run calls := by
  refine ⟨?_, ?_, fun call => ⟨indexStep_revision, fun reason => indexStep_refused⟩⟩
  · induction calls with
    | nil => exact ⟨rfl, rfl, rfl⟩
    | cons call older ih =>
      have earlier : PublishedHeader ((indexMachine format config).run older) :=
        ih fun event member => prepared event (List.mem_cons_of_mem _ member)
      exact earlier.step (prepared ⟨_, call⟩ List.mem_cons_self)
  · intro confirmed
    clear prepared
    induction calls with
    | nil => exact fun key => rfl
    | cons call older ih =>
      have earlier : MirrorsConfirmed ((indexMachine format config).run older) :=
        ih fun event member => confirmed event (List.mem_cons_of_mem _ member)
      have hands := confirmed ⟨_, call⟩ List.mem_cons_self
      exact earlier.step fun given installs => installs_handedConfirmed hands installs

private def restoredCalls : List (IndexCall plainFormat) :=
  [.confirmCleanCells
      { cleanCells := ({} : CellMap StaticEvidenceCellGeometry).insert 5 { minZ := 0, maxZ := 1 }
        stampSec := 1, mapGeneration := 2, cleanBuildVersion := 2 },
    .reset 2, .restoreSnapshotWithoutRevisionIncrement { revision := 7 } 1]

theorem published_view_restored :
    ((indexMachine plainFormat {}).run restoredCalls).snapshot.cells[(5 : Int)]?.isSome = true ∧
      MirrorsConfirmed ((indexMachine plainFormat {}).run restoredCalls) ∧
      ((indexMachine plainFormat {}).run restoredCalls).snapshot.revision = 9 ∧
      (@indexStep plainFormat ((indexMachine plainFormat {}).run restoredCalls)
          (.restoreSnapshotWithoutRevisionIncrement {} 2)).1
        = (indexMachine plainFormat {}).run restoredCalls := by
  have empty : ({ revision := 7 } : StaticEvidenceSnapshot).Confirmed := by
    intro key cell shown
    simp at shown
  have handed : ∀ event ∈ (indexMachine plainFormat {}).trace restoredCalls,
      event.call.HandsPrepared ∧ event.call.HandsConfirmed := by
    intro event member
    simp only [restoredCalls, Machine.trace, List.mem_cons, List.not_mem_nil, or_false] at member
    rcases member with rfl | rfl | rfl
    · exact ⟨trivial, trivial⟩
    · exact ⟨trivial, trivial⟩
    · exact ⟨trivial, empty⟩
  obtain ⟨header, shows, next⟩ := published_view_agrees {} restoredCalls
    fun event member => (handed event member).1
  refine ⟨by with_unfolding_all decide, shows fun event member => (handed event member).2, ?_, ?_⟩
  · rw [header.revision]
    with_unfolding_all decide
  · apply (next _).2 "candidate_schema_or_generation_invalid"
    simp [indexStep, restoreSnapshotWithoutRevisionIncrement, prepareSnapshotInstall]

private def unconfirmedCandidate : StaticEvidenceSnapshot :=
  { revision := 2 ^ 64 - 1
    cells := ({} : CellMap StaticEvidenceCell).insert 5 { key := 5 } }

theorem published_view_departs :
    ¬MirrorsConfirmed ((indexMachine plainFormat {}).run
        [.restoreSnapshotWithoutRevisionIncrement unconfirmedCandidate 1]) ∧
      ((indexMachine plainFormat {}).run [.setSnapshotAuthority .runtimeMature,
          .restoreSnapshotWithoutRevisionIncrement unconfirmedCandidate 1]).snapshot.revision
        < ((indexMachine plainFormat {}).run
          [.restoreSnapshotWithoutRevisionIncrement unconfirmedCandidate 1]).snapshot.revision := by
  constructor
  · intro shows
    have shown := shows 5
    revert shown
    with_unfolding_all decide
  · with_unfolding_all decide

end NdtSlam
