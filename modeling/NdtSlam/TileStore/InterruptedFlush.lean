import NdtSlam.TileStore.AcceptedDisk
import NdtSlam.TileStore.FlushFiles

/-! What a restart finds after a flush of the persistent map that was interrupted. -/

namespace NdtSlam

open PersistentRegistration

variable {settings : CatalogSettings} {disk : TileDisk settings.codec} {batch : FlushBatch}
  {outcomes : FlushOutcomes} {count : Nat}

/-! ### The operations of a flush -/

theorem replacedJobs_tileSteps :
    TileDisk.replacedJobs (disk.tileSteps batch outcomes) =
      batch.jobs.filter fun job => disk.outcome outcomes job == .written := by
  have directories : TileDisk.replacedJobs (TileLayer.all.map .createDirectory) = [] := rfl
  unfold TileDisk.tileSteps
  rw [TileDisk.replacedJobs, List.filterMap_append, ← TileDisk.replacedJobs, directories,
    List.nil_append]
  induction batch.jobs with
  | nil => rfl
  | cons job rest ih =>
    rw [List.flatMap_cons, List.filterMap_append, ih, List.filter_cons]
    -- Only a job that is written has an operation that replaces its tile.
    unfold TileDisk.jobSteps
    cases disk.outcome outcomes job <;> simp

theorem replacedJobs_flushSteps :
    TileDisk.replacedJobs (disk.flushSteps batch outcomes) =
      batch.jobs.filter fun job => disk.outcome outcomes job == .written := by
  rw [← replacedJobs_tileSteps]
  unfold TileDisk.flushSteps TileDisk.replacedJobs
  rw [List.filterMap_append]
  split_ifs <;> simp

theorem replacedJobs_take :
    (TileDisk.replacedJobs ((disk.flushSteps batch outcomes).take count)).Sublist
      (batch.jobs.filter fun job => disk.outcome outcomes job == .written) := by
  rw [← replacedJobs_flushSteps]
  exact (List.take_sublist _ _).filterMap _

theorem replaceCatalog_not_mem_tileSteps :
    .replaceCatalog ∉ disk.tileSteps batch outcomes := by
  unfold TileDisk.tileSteps
  rw [List.mem_append, List.mem_flatMap, not_or]
  refine ⟨by simp, ?_⟩
  rintro ⟨job, -, step⟩
  unfold TileDisk.jobSteps at step
  cases written : disk.outcome outcomes job <;> simp [written] at step

def TileDisk.completes (disk : TileDisk settings.codec) (batch : FlushBatch)
    (outcomes : FlushOutcomes) (count : Nat) : Bool :=
  disk.allWritten batch outcomes && outcomes.catalog &&
    (disk.flushSteps batch outcomes).length ≤ count

theorem interrupted_completes (done : disk.completes batch outcomes count = true) :
    disk.interrupted batch outcomes count =
      (disk.run (disk.tileSteps batch outcomes)).apply .replaceCatalog := by
  unfold TileDisk.completes at done
  simp only [Bool.and_eq_true, decide_eq_true_eq] at done
  obtain ⟨⟨written, catalog⟩, all⟩ := done
  unfold TileDisk.interrupted
  rw [List.take_of_length_le all]
  unfold TileDisk.flushSteps TileDisk.run
  rw [if_pos written, if_pos catalog, List.foldl_append]
  rfl

theorem replaceCatalog_not_mem_take (undone : disk.completes batch outcomes count = false) :
    .replaceCatalog ∉ (disk.flushSteps batch outcomes).take count := by
  intro member
  have tiles := @replaceCatalog_not_mem_tileSteps settings disk batch outcomes
  rw [Bool.eq_false_iff] at undone
  apply undone
  unfold TileDisk.completes
  simp only [Bool.and_eq_true, decide_eq_true_eq]
  -- The last operation is the only one that replaces the catalogue.
  by_cases committed : disk.allWritten batch outcomes = true ∧ outcomes.catalog = true
  · obtain ⟨written, catalog⟩ := committed
    refine ⟨⟨written, catalog⟩, ?_⟩
    have steps : disk.flushSteps batch outcomes =
        (disk.tileSteps batch outcomes ++ [.writeTemporaryCatalog]) ++ [.replaceCatalog] := by
      unfold TileDisk.flushSteps
      rw [if_pos written, if_pos catalog]
      simp
    by_contra short
    rw [steps, List.length_append, List.length_singleton] at short
    rw [steps, List.take_append_of_le_length (by omega)] at member
    rcases List.mem_append.mp (List.mem_of_mem_take member) with inside | inside
    · exact tiles inside
    · simp at inside
  · have inside := List.mem_of_mem_take member
    unfold TileDisk.flushSteps at inside
    rcases List.mem_append.mp inside with inside | inside
    · exact absurd inside tiles
    · split_ifs at inside with written catalog
      · exact absurd ⟨written, catalog⟩ committed
      · simp at inside
      · cases inside

/-! ### The tiles after some of the operations -/

theorem voxelFilter_ne_nil {layer : TileLayer} {input : List Vec3}
    (some : ∃ point ∈ input, point.allFinite = true) : settings.voxelFilter layer input ≠ [] := by
  unfold CatalogSettings.voxelFilter
  split_ifs
  · exact settings.voxelGrid_keeps _ _ some
  · obtain ⟨point, member, -⟩ := some
    exact List.ne_nil_of_mem member

theorem merged_decodes {job : TileJob} (member : job ∈ batch.jobs) :
    ∃ cloud, settings.codec.decode (disk.merged job) = .ok (some cloud) ∧ cloud ≠ [] := by
  refine ⟨_, settings.codec.decode_encode _, voxelFilter_ne_nil ?_⟩
  obtain ⟨point, inside⟩ := List.exists_mem_of_ne_nil _ (FlushBatch.mem_jobs.1 member).1
  exact ⟨point, List.mem_append_right _ inside, FlushBatch.job_points member point inside⟩

variable {steps : List FlushFileStep}

def Replaces (batch : FlushBatch) (steps : List FlushFileStep) : Prop :=
  (TileDisk.replacedJobs steps).Sublist batch.jobs

theorem replaces_take : Replaces batch ((disk.flushSteps batch outcomes).take count) :=
  replacedJobs_take.trans List.filter_sublist

theorem replaces_tileSteps : Replaces batch (disk.tileSteps batch outcomes) := by
  unfold Replaces
  rw [replacedJobs_tileSteps]
  exact List.filter_sublist

theorem tile?_run_replaced (replaces : Replaces batch steps) {job : TileJob}
    (member : job ∈ TileDisk.replacedJobs steps) :
    (disk.run steps).tile? job.layer job.fileName = some (disk.merged job) :=
  TileDisk.tile?_run_own (batch.jobs_apart.sublist replaces) member
    (FlushBatch.job_fileName (replaces.subset member)).1

theorem tile?_run_cases (replaces : Replaces batch steps) (layer : TileLayer) (name : String) :
    (disk.run steps).tile? layer name = disk.tile? layer name ∨
      ∃ job ∈ TileDisk.replacedJobs steps, layer = job.layer ∧ name = job.fileName ∧
        (disk.run steps).tile? layer name = some (disk.merged job) := by
  by_cases replaced : ∃ job ∈ TileDisk.replacedJobs steps, layer = job.layer ∧ name = job.fileName
  · obtain ⟨job, member, rfl, rfl⟩ := replaced
    exact .inr ⟨job, member, rfl, rfl, tile?_run_replaced replaces member⟩
  · exact .inl (TileDisk.tile?_run_other fun job member same => replaced ⟨job, member, same⟩)

theorem hasTile_run (replaces : Replaces batch steps) (layer : TileLayer) :
    (∃ name, (disk.run steps).HasTile layer name) ↔
      (∃ name, disk.HasTile layer name) ∨
        ∃ job ∈ TileDisk.replacedJobs steps, job.layer = layer := by
  constructor
  · rintro ⟨name, tile⟩
    rcases @tile?_run_cases _ disk _ _ replaces layer name with same | ⟨job, member, rfl, -, -⟩
    · left
      refine ⟨name, ?_⟩
      unfold TileDisk.HasTile at tile ⊢
      rwa [same] at tile
    · exact .inr ⟨job, member, rfl⟩
  · rintro (⟨name, tile⟩ | ⟨job, member, rfl⟩)
    · refine ⟨name, ?_⟩
      unfold TileDisk.HasTile at tile ⊢
      rcases @tile?_run_cases _ disk _ _ replaces layer name with same | ⟨job, -, -, -, new⟩
      · rwa [same]
      · rw [new]
        rfl
    · refine ⟨job.fileName, ?_⟩
      unfold TileDisk.HasTile
      rw [tile?_run_replaced replaces member]
      rfl

theorem tidy_run (replaces : Replaces batch steps) (tidy : disk.Tidy) :
    (disk.run steps).Tidy := by
  constructor
  · intro layer name tile
    rcases @tile?_run_cases _ disk _ _ replaces layer name with same | ⟨job, member, -, rfl, -⟩
    · refine tidy.plain layer name ?_
      unfold TileDisk.HasTile at tile ⊢
      rwa [same] at tile
    · exact (FlushBatch.job_fileName (replaces.subset member)).2
  · intro name content held
    rcases @tile?_run_cases _ disk _ _ replaces .registration name with same | ⟨job, member, -, -, new⟩
    · exact tidy.decodes name content (same.symm.trans held)
    · obtain rfl := Option.some.inj (new.symm.trans held)
      exact merged_decodes (replaces.subset member)

/-! ### What a restart finds -/

def TileDisk.Rewrites (disk : TileDisk settings.codec) (job : TileJob) : Prop :=
  disk.file? job.layer job.fileName = some (disk.merged job)

def TileDisk.CollisionFree (disk : TileDisk settings.codec) (batch : FlushBatch) : Prop :=
  ∀ job ∈ batch.jobs, ∀ old, disk.file? job.layer job.fileName = some old →
    settings.codec.sha256 old = settings.codec.sha256 (disk.merged job) → old = disk.merged job

theorem rewrites_iff {job : TileJob} (member : job ∈ batch.jobs) :
    disk.Rewrites job ↔ disk.tile? job.layer job.fileName = some (disk.merged job) := by
  have named := (FlushBatch.job_fileName member).1
  unfold TileDisk.Rewrites TileDisk.tile?
  rw [if_pos named]

theorem sameTiles_run (replaces : Replaces batch steps)
    (rewrites : ∀ job ∈ TileDisk.replacedJobs steps, disk.Rewrites job) :
    disk.SameTiles (disk.run steps) := by
  intro layer name
  rcases @tile?_run_cases _ disk _ _ replaces layer name with same | ⟨job, member, rfl, rfl, new⟩
  · exact same.symm
  · rw [new]
    exact (rewrites_iff (replaces.subset member)).mp (rewrites job member)

variable {other : TileDisk settings.codec}

theorem readDocument_congr (kept : other.manifest = disk.manifest) :
    other.readDocument = disk.readDocument := by
  unfold TileDisk.readDocument
  rw [kept]

theorem loads_sameTiles (start : disk.Loads) (kept : other.manifest = disk.manifest)
    (same : disk.SameTiles other) : other.Loads := by
  have document := readDocument_congr kept
  have tiles : ∀ layer name, other.HasTile layer name ↔ disk.HasTile layer name := by
    intro layer name
    unfold TileDisk.HasTile
    rw [same]
  refine loads_iff.2 ?_
  rcases loads_iff.1 start with ⟨result, loaded, restored⟩ | new
  · obtain ⟨manifest, heading, catalogs, tiles, read, some, describes, points⟩ :=
      load_restored_iff.1 ⟨result, loaded, restored, rfl⟩
    obtain ⟨result', loaded', restored', -⟩ := load_restored_iff.2
      ⟨kept ▸ manifest, heading, catalogs, tiles, document.trans read, some,
        same.describes describes, points⟩
    exact .inl ⟨result', loaded', restored'⟩
  · right
    obtain ⟨catalogue, none⟩ := load_new_iff.1 new
    refine load_new_iff.2 ⟨?_, fun layer name tile => none layer name ((tiles _ _).mp tile)⟩
    rw [kept, document]
    exact catalogue

theorem held_of_loads (start : disk.Loads) (kept : other.manifest = disk.manifest)
    (loads : other.Loads) {layer : TileLayer} {name : String} {content : settings.codec.Content}
    (held : other.tile? layer name = some content) :
    ∃ old, disk.tile? layer name = some old ∧
      settings.codec.sha256 old = settings.codec.sha256 content := by
  have document := readDocument_congr kept
  rcases loads_cases loads with ⟨manifest, heading, catalogs, tiles, read, some, after⟩ | ⟨-, none⟩
  · rw [document] at read
    rcases loads_cases start with ⟨-, heading', catalogs', tiles', read', -, before⟩ |
      ⟨missing | ⟨-, heading', catalogs', read', empty⟩, -⟩
    · cases Except.ok.inj (read.symm.trans read')
      exact before.agree after held
    · rw [kept, missing] at manifest
      cases manifest
    · -- A catalogue without tiles lists none of the registration layer.
      cases Except.ok.inj (read.symm.trans read')
      unfold LayerCatalogs.empty at empty
      simp only [Bool.and_eq_true, List.isEmpty_iff] at empty
      exact absurd empty.1.1.1 some
  · exact absurd (by simp [TileDisk.HasTile, held]) (none layer name)

theorem replacedJobs_completes (done : disk.completes batch outcomes count = true) :
    TileDisk.replacedJobs (disk.tileSteps batch outcomes) = batch.jobs := by
  unfold TileDisk.completes TileDisk.allWritten at done
  simp only [Bool.and_eq_true] at done
  rw [replacedJobs_tileSteps, List.filter_eq_self]
  exact List.all_eq_true.mp done.1.1

/-- The flush ends with a catalogue that can be read, or it has changed no tile yet. -/
def TileDisk.FlushSafe (disk : TileDisk settings.codec) (batch : FlushBatch)
    (outcomes : FlushOutcomes) (count : Nat) : Prop :=
  if disk.completes batch outcomes count then
    settings.sizeUsable = true ∧ ((∃ name, disk.HasTile .registration name) ∨
      batch.jobs = [] ∨ ∃ job ∈ batch.jobs, job.layer = .registration)
  else ∀ job ∈ TileDisk.replacedJobs ((disk.flushSteps batch outcomes).take count),
    disk.Rewrites job

theorem loads_completes (start : disk.Loads) (done : disk.completes batch outcomes count = true) :
    (disk.interrupted batch outcomes count).Loads ↔
      settings.sizeUsable = true ∧ ((∃ name, disk.HasTile .registration name) ∨
        batch.jobs = [] ∨ ∃ job ∈ batch.jobs, job.layer = .registration) := by
  have replaces := @replaces_tileSteps settings disk batch outcomes
  have all := replacedJobs_completes done
  have layers := @hasTile_run _ disk _ _ replaces
  rw [all] at layers
  rw [interrupted_completes done, loads_replaceCatalog (tidy_run replaces (tidy_of_loads start)),
    layers]
  refine and_congr_right fun _ => ?_
  constructor
  · rintro ((old | ⟨job, member, own⟩) | none)
    · exact .inl old
    · exact .inr (.inr ⟨job, member, own⟩)
    · -- Without any tile at the end there was no job.
      refine .inr (.inl (List.eq_nil_iff_forall_not_mem.mpr fun job member => ?_))
      obtain ⟨name, tile⟩ := (layers job.layer).mpr (.inr ⟨job, member, rfl⟩)
      exact none job.layer name tile
  · rintro (old | nothing | ⟨job, member, own⟩)
    · exact .inl (.inl old)
    · by_cases old : ∃ name, disk.HasTile .registration name
      · exact .inl (.inl old)
      · right
        intro layer name tile
        rcases (layers layer).mp ⟨name, tile⟩ with ⟨other, held⟩ | ⟨job, member, -⟩
        · exact old (registration_of_loads start held)
        · rw [nothing] at member
          cases member
    · exact .inl (.inr ⟨job, member, own⟩)

theorem loads_undone (start : disk.Loads) (collisionFree : disk.CollisionFree batch)
    (undone : disk.completes batch outcomes count = false) :
    (disk.interrupted batch outcomes count).Loads ↔
      ∀ job ∈ TileDisk.replacedJobs ((disk.flushSteps batch outcomes).take count),
        disk.Rewrites job := by
  have replaces := @replaces_take settings disk batch outcomes count
  have kept : (disk.interrupted batch outcomes count).manifest = disk.manifest :=
    TileDisk.manifest_run (replaceCatalog_not_mem_take undone)
  constructor
  · intro loads job member
    have inside := replaces.subset member
    -- The old catalogue has the digest of the old tile, which the new version has to share.
    obtain ⟨old, held, digest⟩ :=
      held_of_loads start kept loads (tile?_run_replaced replaces member)
    have found := (TileDisk.tile?_eq_some.1 held).2
    unfold TileDisk.Rewrites
    rw [found, collisionFree job inside old found digest]
  · intro rewrites
    exact loads_sameTiles start kept (sameTiles_run replaces rewrites)

theorem loads_interrupted_iff (start : disk.Loads) (collisionFree : disk.CollisionFree batch) :
    (disk.interrupted batch outcomes count).Loads ↔ disk.FlushSafe batch outcomes count := by
  unfold TileDisk.FlushSafe
  cases done : disk.completes batch outcomes count with
  | true => simpa using loads_completes start done
  | false => simpa using loads_undone start collisionFree done

/-- A restart restores catalogued tiles, each of them in its old or in its new version. -/
structure TileDisk.Survives (disk : TileDisk settings.codec) (batch : FlushBatch)
    (later : TileDisk settings.codec) : Prop where
  accepted : ∃ result, later.load = some result ∧ result.status ≠ .invalidExistingMap ∧
    later.Holds result.cloud
  catalogued : later.Catalogued
  versions : ∀ layer name, later.tile? layer name = disk.tile? layer name ∨
    ∃ job ∈ batch.jobs, layer = job.layer ∧ name = job.fileName ∧
      later.tile? layer name = some (disk.merged job)

theorem interrupted_versions (layer : TileLayer) (name : String) :
    (disk.interrupted batch outcomes count).tile? layer name = disk.tile? layer name ∨
      ∃ job ∈ batch.jobs, layer = job.layer ∧ name = job.fileName ∧
        (disk.interrupted batch outcomes count).tile? layer name = some (disk.merged job) := by
  have replaces := @replaces_take settings disk batch outcomes count
  rcases @tile?_run_cases _ disk _ _ replaces layer name with same | ⟨job, member, own⟩
  · exact .inl same
  · exact .inr ⟨job, replaces.subset member, own⟩

section Samples

def digitsNumber (text : List Char) : Nat := Nat.ofDigitChars 10 text 0

def writeFraction : Scalar → String
  | .fin value => (if value < 0 then "-" else "") ++ "/" ++ toString value.num.natAbs ++ "/" ++
      toString value.den
  | _ => "nan"

def readFraction (text : String) : Option Scalar :=
  match text.toList.splitOn '/' with
  | [sign, numerator, denominator] =>
    some (.fin ((if sign = ['-'] then -1 else 1) * digitsNumber numerator /
      digitsNumber denominator))
  | _ => none

theorem digitsNumber_toString (value : Nat) : digitsNumber (toString value).toList = value := by
  have digits : (toString value).toList = Nat.toDigits 10 value := Nat.toList_repr
  unfold digitsNumber
  rw [digits, Nat.ofDigitChars_ten_toDigits]

theorem slash_not_mem_toString (value : Nat) : '/' ∉ (toString value).toList := by
  intro member
  have digits : (toString value).toList = Nat.toDigits 10 value := Nat.toList_repr
  rw [digits] at member
  exact absurd (Nat.isDigit_of_mem_toDigits (by decide) (by decide) member) (by decide)

theorem readFraction_writeFraction (value : Scalar) (finite : value.isFinite = true) :
    readFraction (writeFraction value) = some value := by
  obtain ⟨number, rfl⟩ := Scalar.isFinite_iff.1 finite
  have pieces : (writeFraction (.fin number)).toList.splitOn '/' =
      [(if number < 0 then "-" else "").toList, (toString number.num.natAbs).toList,
        (toString number.den).toList] := by
    have sign : '/' ∉ (if number < 0 then "-" else "").toList := by split_ifs <;> decide
    have text : (writeFraction (.fin number)).toList =
        (if number < 0 then "-" else "").toList ++ '/' :: ((toString number.num.natAbs).toList ++
          '/' :: (toString number.den).toList) := by
      simp [writeFraction]
    rw [text, List.splitOn_append_cons_self_of_not_mem sign,
      List.splitOn_append_cons_self_of_not_mem (slash_not_mem_toString _),
      List.splitOn_eq_singleton (slash_not_mem_toString _)]
  unfold readFraction
  rw [pieces]
  simp only [digitsNumber_toString, Option.some.injEq, Scalar.fin.injEq]
  -- The sign is that of the numerator.
  by_cases negative : number < 0
  · have below := Rat.num_neg.mpr negative
    have whole : (number.num.natAbs : ℤ) = -number.num := by omega
    have size : ((number.num.natAbs : ℕ) : ℚ) = -number.num := by
      rw [← Int.cast_natCast, whole, Int.cast_neg]
    simp [negative, size, Rat.num_div_den]
  · have above := Rat.num_nonneg.mpr (not_lt.mp negative)
    have whole : (number.num.natAbs : ℤ) = number.num := by omega
    have size : ((number.num.natAbs : ℕ) : ℚ) = number.num := by
      rw [← Int.cast_natCast, whole]
    simp [negative, size, Rat.num_div_den]

def cloudCodec : TileCodec where
  Content := List Vec3
  encode cloud := cloud
  decode content := .ok (some content)
  size content := content.length % 2 ^ 64
  sha256 content := String.ofList ((List.range 64).map fun place =>
    if place < content.length then '1' else '0')
  decode_encode _ := rfl
  size_lt content := Nat.mod_lt _ (by decide)
  sha256_length content := by simp

def decimalCatalogs : CatalogFormat where
  library := { plainYaml with
    toUInt32 := fun text => some (digitsNumber text.toList)
    toUInt64 := fun text => some (digitsNumber text.toList)
    toDouble := readFraction }
  writeNat value := toString value
  writeReal := writeFraction
  toUInt32_writeNat value _ := by simp only [digitsNumber_toString]
  toUInt64_writeNat value _ := by simp only [digitsNumber_toString]
  toBool_true := rfl
  toBool_false := rfl
  toDouble_writeReal := readFraction_writeFraction

def unverifiedMap : CatalogSettings where
  codec := cloudCodec
  format := decimalCatalogs
  formatYaw := writeFraction
  voxelGrid _ cloud := cloud.filter (·.allFinite)
  voxelGrid_keeps _ cloud some := by
    obtain ⟨point, member, finite⟩ := some
    exact List.ne_nil_of_mem (List.mem_filter.mpr ⟨member, finite⟩)
  root := "map"
  mapUuid := "map"
  tileSizeM := 10
  mapFrameUuid := ⟨"frame", by decide⟩
  authority := {}
  authority_holds := by simp

def emptyMapStore : TileDisk unverifiedMap.codec where
  directory _ := none
  manifest := none

def firstKey : String := TileStoreConfig.tileKeyFor { tileSizeM := 10, maxMapSize := 100 } ⟨1, 1, 1⟩

def firstBatch : FlushBatch where
  tiles := (∅ : TileMap).insert firstKey fun layer =>
    if layer = .registration then some [⟨1, 1, 1⟩] else none
  named key member := by
    rcases Std.ExtTreeMap.mem_insert.mp member with same | none
    · exact ⟨_, _, (Std.LawfulEqCmp.eq_of_compare same).symm⟩
    · exact absurd none Std.ExtTreeMap.not_mem_empty
  finite layer key point member := by
    unfold TileMap.points at member
    rw [Std.ExtTreeMap.getElem?_insert] at member
    split_ifs at member
    · simp only [Option.bind_some] at member
      split_ifs at member
      · obtain rfl := List.mem_singleton.mp member
        decide
      · cases member
    · simp at member

theorem file?_emptyMapStore (layer : TileLayer) (name : String) :
    emptyMapStore.file? layer name = none := rfl

theorem emptyMapStore_loads : emptyMapStore.Loads := by
  refine loads_iff.2 (.inr (load_new_iff.2 ⟨.inl rfl, ?_⟩))
  intro layer name tile
  simp [TileDisk.HasTile, TileDisk.tile?, file?_emptyMapStore] at tile

theorem emptyMapStore_collisionFree : emptyMapStore.CollisionFree firstBatch := by
  intro job _ old found
  rw [file?_emptyMapStore] at found
  cases found

end Samples

end NdtSlam
