import NdtSlam.TileStore.CatalogReader

/-! Which files a flush of the persistent map changes. -/

namespace NdtSlam

open PersistentRegistration

/-! ### The names of tiles -/

theorem isDigit_of_mem_toString {number : Int} {letter : Char}
    (member : letter ∈ (toString number).toList) : letter.isDigit = true ∨ letter = '-' := by
  -- Both kinds of integers print the digits of a natural number.
  cases number with
  | ofNat value =>
    have digits : (toString (Int.ofNat value)).toList = Nat.toDigits 10 value := by
      show value.repr.toList = _
      exact Nat.toList_repr
    rw [digits] at member
    exact .inl (Nat.isDigit_of_mem_toDigits (by decide) (by decide) member)
  | negSucc value =>
    have digits : (toString (Int.negSucc value)).toList = '-' :: Nat.toDigits 10 (value + 1) := by
      show ("-" ++ (value + 1).repr).toList = _
      rw [String.toList_append, Nat.toList_repr]
      rfl
    rw [digits] at member
    rcases List.mem_cons.mp member with rfl | member
    · exact .inr rfl
    · exact .inl (Nat.isDigit_of_mem_toDigits (by decide) (by decide) member)

theorem TileStoreConfig.not_mem_tileKeyFor {config : TileStoreConfig} {point : Vec3}
    {letter : Char} (separates : letter = '/' ∨ letter = '\\' ∨ letter = '.') :
    letter ∉ (config.tileKeyFor point).toList := by
  -- The name consists of two letters, an underscore and two numbers.
  unfold tileKeyFor
  simp only [String.toList_append, List.mem_append, not_or]
  have apart : ∀ number : Int, letter ∉ (toString number).toList := by
    intro number member
    rcases isDigit_of_mem_toString member with digit | rfl
    · rcases separates with rfl | rfl | rfl <;> exact absurd digit (by decide)
    · rcases separates with same | same | same <;> exact absurd same (by decide)
  refine ⟨⟨⟨?_, apart _⟩, ?_⟩, apart _⟩ <;>
    rcases separates with rfl | rfl | rfl <;> decide

theorem TileJob.isTileName_temporaryName (job : TileJob) :
    TileDisk.isTileName job.temporaryName = false := by
  -- Its extension is as long as that of a tile, but another one.
  rw [Bool.eq_false_iff]
  intro tile
  simp only [TileDisk.isTileName, hasTileExtension, Bool.and_eq_true] at tile
  obtain ⟨front, same⟩ := List.isSuffixOf_iff_suffix.mp tile.1.1
  rw [temporaryName, String.toList_append] at same
  exact absurd (List.append_inj_right' same (by decide)) (by decide)

theorem TileJob.key_of_fileName {first second : TileJob}
    (same : first.fileName = second.fileName) : first.key = second.key := by
  have text := congrArg String.toList same
  rw [fileName, fileName, String.toList_append, String.toList_append] at text
  exact String.toList_inj.mp (List.append_cancel_right text)

variable {job : TileJob}

theorem TileJob.ofLayer_eq_some {key : String} {tile : TileLayers} {layer : TileLayer} :
    ofLayer key tile layer = some job ↔
      job.layer = layer ∧ job.key = key ∧ tile layer = some job.points ∧ job.points ≠ [] := by
  unfold ofLayer
  constructor
  · intro made
    -- A layer without points makes no job.
    cases found : tile layer with
    | none => simp [found] at made
    | some cloud =>
      cases cloud with
      | nil => simp [found] at made
      | cons head rest =>
        simp only [found, Option.some.injEq] at made
        subst made
        exact ⟨rfl, rfl, rfl, by simp⟩
  · rintro ⟨rfl, rfl, found, some⟩
    rw [found]
    cases job with
    | mk layer key cloud =>
      cases cloud with
      | nil => exact absurd rfl some
      | cons head rest => rfl

theorem TileLayer.mem_all (layer : TileLayer) : layer ∈ all := by
  cases layer <;> simp [all]

def TileJob.Apart (first second : TileJob) : Prop :=
  ¬(first.layer = second.layer ∧ first.fileName = second.fileName)

namespace FlushBatch

variable {batch : FlushBatch} {job : TileJob}

theorem mem_jobs :
    job ∈ batch.jobs ↔ job.points ≠ [] ∧
      ∃ tile, batch.tiles[job.key]? = some tile ∧ tile job.layer = some job.points := by
  unfold jobs
  simp only [List.mem_flatMap, List.mem_filterMap, TileJob.ofLayer_eq_some]
  constructor
  · rintro ⟨⟨key, tile⟩, member, layer, -, rfl, rfl, points, some⟩
    exact ⟨some, tile, Std.ExtTreeMap.mem_toList_iff_getElem?_eq_some.mp member, points⟩
  · rintro ⟨some, tile, found, points⟩
    exact ⟨(job.key, tile), Std.ExtTreeMap.mem_toList_iff_getElem?_eq_some.mpr found, job.layer,
      TileLayer.mem_all job.layer, rfl, rfl, points, some⟩

theorem job_points (member : job ∈ batch.jobs) :
    ∀ point ∈ job.points, point.allFinite = true := by
  obtain ⟨-, tile, found, points⟩ := mem_jobs.1 member
  intro point inside
  refine batch.finite job.layer job.key point ?_
  simpa [TileMap.points, found, points] using inside

theorem job_fileName (member : job ∈ batch.jobs) :
    TileDisk.isTileName job.fileName = true ∧ '\\' ∉ job.fileName.toList := by
  obtain ⟨-, tile, found, -⟩ := mem_jobs.1 member
  obtain ⟨config, point, named⟩ :=
    batch.named job.key (Std.ExtTreeMap.mem_iff_isSome_getElem?.mpr (by simp [found]))
  have name : job.fileName.toList = (config.tileKeyFor point).toList ++ ".pcd".toList := by
    rw [TileJob.fileName, String.toList_append, named]
  have letter : 'x' ∈ (config.tileKeyFor point).toList := by
    simp [TileStoreConfig.tileKeyFor]
  -- The key is not empty, so that the extension of the file is that of a tile.
  have long : 4 < job.fileName.toList.length := by
    have some := List.length_pos_of_mem letter
    have four : ".pcd".toList.length = 4 := by decide
    rw [name, List.length_append, four]
    omega
  refine ⟨?_, ?_⟩
  · unfold TileDisk.isTileName hasTileExtension
    have extension : ".pcd".toList <:+ job.fileName.toList := ⟨_, name.symm⟩
    have plain : '/' ∉ job.fileName.toList := by
      rw [name, List.mem_append, not_or]
      exact ⟨TileStoreConfig.not_mem_tileKeyFor (.inl rfl), by decide⟩
    simp only [Bool.and_eq_true, decide_eq_true_eq, List.isSuffixOf_iff_suffix,
      Bool.not_eq_true', List.contains_eq_mem, decide_eq_false_iff_not]
    exact ⟨⟨extension, long⟩, plain⟩
  · rw [name, List.mem_append, not_or]
    exact ⟨TileStoreConfig.not_mem_tileKeyFor (.inr (.inl rfl)), by decide⟩

theorem jobs_apart (batch : FlushBatch) : batch.jobs.Pairwise TileJob.Apart := by
  -- Tiles differ in their keys, and the jobs of one tile in their layers.
  unfold jobs
  rw [List.pairwise_flatMap]
  constructor
  · intro item _
    rw [List.pairwise_filterMap]
    have layers : TileLayer.all.Nodup := by decide
    refine layers.imp ?_
    rintro layer other apart first made second made' ⟨same, -⟩
    obtain ⟨rfl, -⟩ := TileJob.ofLayer_eq_some.1 made
    obtain ⟨rfl, -⟩ := TileJob.ofLayer_eq_some.1 made'
    exact apart same
  · refine batch.tiles.distinct_keys_toList.imp ?_
    intro item other apart first made second made' both
    obtain ⟨layer, -, built⟩ := List.mem_filterMap.mp made
    obtain ⟨layer', -, built'⟩ := List.mem_filterMap.mp made'
    obtain ⟨-, key, -⟩ := TileJob.ofLayer_eq_some.1 built
    obtain ⟨-, key', -⟩ := TileJob.ofLayer_eq_some.1 built'
    have same : item.1 = other.1 := key.symm.trans ((TileJob.key_of_fileName both.2).trans key')
    exact apart (same ▸ Std.ReflCmp.compare_self)

end FlushBatch

/-! ### What an operation changes -/

namespace TileDisk

variable {settings : CatalogSettings} {disk : TileDisk settings.codec} {layer : TileLayer}
  {name : String} {place : TileLayer} {content : settings.codec.Content}

theorem file?_put {key : String} :
    (disk.put place key content).file? layer name =
      if layer = place ∧ name = key then some content else disk.file? layer name := by
  unfold put setDirectory file?
  by_cases own : layer = place
  · subst own
    simp only [Function.update_self, Option.bind_some, true_and]
    by_cases same : name = key
    · rw [if_pos same, same, Std.ExtTreeMap.getElem?_insert_self]
    · -- The other files of the directory stay, if the directory was there.
      have other : compare key name ≠ .eq := by simpa using Ne.symm same
      rw [if_neg same, Std.ExtTreeMap.getElem?_insert, if_neg other]
      cases disk.directory layer <;> simp
  · rw [if_neg (fun both => own both.1)]
    simp only [Function.update_of_ne own]

theorem file?_remove {key : String} (other : ¬(layer = place ∧ name = key)) :
    (disk.remove place key).file? layer name = disk.file? layer name := by
  unfold remove setDirectory file?
  by_cases own : layer = place
  · subst own
    have apart : compare key name ≠ .eq := by
      simpa using fun same : key = name => other ⟨rfl, same.symm⟩
    simp only [Function.update_self]
    cases disk.directory layer with
    | none => rfl
    | some files => simp [Std.ExtTreeMap.getElem?_erase, apart]
  · simp only [Function.update_of_ne own]

theorem file?_createDirectory :
    (disk.createDirectory place).file? layer name = disk.file? layer name := by
  unfold createDirectory setDirectory file?
  by_cases own : layer = place
  · subst own
    simp only [Function.update_self]
    cases disk.directory layer <;> simp
  · simp only [Function.update_of_ne own]

theorem tile?_put_temporary :
    (disk.put place job.temporaryName content).tile? layer name = disk.tile? layer name := by
  unfold tile?
  split_ifs with tile
  · rw [file?_put, if_neg]
    rintro ⟨-, rfl⟩
    rw [job.isTileName_temporaryName] at tile
    cases tile
  · rfl

theorem tile?_apply_other {step : FlushFileStep}
    (other : ∀ job, step = .replaceTile job → ¬(layer = job.layer ∧ name = job.fileName)) :
    (disk.apply step).tile? layer name = disk.tile? layer name := by
  cases step with
  | createDirectory place =>
    unfold tile? apply
    rw [file?_createDirectory]
  | writeTemporary job => exact tile?_put_temporary
  | replaceTile job =>
    unfold tile? apply
    split_ifs with tile
    · rw [file?_put, if_neg (other job rfl), file?_remove]
      rintro ⟨-, rfl⟩
      rw [job.isTileName_temporaryName] at tile
      cases tile
    · rfl
  | writeTemporaryCatalog => rfl
  | replaceCatalog => rfl

theorem tile?_apply_own (named : isTileName job.fileName = true) :
    (disk.apply (.replaceTile job)).tile? job.layer job.fileName = some (disk.merged job) := by
  unfold tile? apply
  rw [if_pos named, file?_put, if_pos ⟨rfl, rfl⟩]

theorem manifest_apply {step : FlushFileStep} (other : step ≠ .replaceCatalog) :
    (disk.apply step).manifest = disk.manifest := by
  cases step with
  | replaceCatalog => exact absurd rfl other
  | _ => rfl

theorem merged_congr {other : TileDisk settings.codec} (named : isTileName job.fileName = true)
    (same : disk.tile? job.layer job.fileName = other.tile? job.layer job.fileName) :
    disk.merged job = other.merged job := by
  unfold tile? at same
  rw [if_pos named, if_pos named] at same
  unfold merged existing
  rw [same]

/-! ### What a row of operations changes -/

def replacedJobs (steps : List FlushFileStep) : List TileJob :=
  steps.filterMap fun
    | .replaceTile job => some job
    | _ => none

variable {steps : List FlushFileStep}

theorem mem_replacedJobs :
    job ∈ replacedJobs steps ↔ .replaceTile job ∈ steps := by
  unfold replacedJobs
  rw [List.mem_filterMap]
  constructor
  · rintro ⟨step, member, made⟩
    cases step <;> simp_all
  · intro member
    exact ⟨_, member, rfl⟩

theorem manifest_run (kept : .replaceCatalog ∉ steps) :
    (disk.run steps).manifest = disk.manifest := by
  induction steps generalizing disk with
  | nil => rfl
  | cons step rest ih =>
    rw [List.mem_cons, not_or] at kept
    exact (ih kept.2).trans (manifest_apply fun same => kept.1 same.symm)

theorem tile?_run_other
    (other : ∀ job ∈ replacedJobs steps, ¬(layer = job.layer ∧ name = job.fileName)) :
    (disk.run steps).tile? layer name = disk.tile? layer name := by
  simp only [mem_replacedJobs] at other
  induction steps generalizing disk with
  | nil => rfl
  | cons step rest ih =>
    have later := @ih (disk.apply step) fun job member =>
      other job (List.mem_cons_of_mem _ member)
    exact later.trans (tile?_apply_other fun job same => other job (same ▸ List.mem_cons_self))

theorem tile?_run_own (apart : (replacedJobs steps).Pairwise TileJob.Apart)
    (member : job ∈ replacedJobs steps) (named : isTileName job.fileName = true) :
    (disk.run steps).tile? job.layer job.fileName = some (disk.merged job) := by
  -- Neither the operations in front of the replacement nor those behind it touch the tile.
  obtain ⟨front, back, rfl⟩ := List.append_of_mem (mem_replacedJobs.1 member)
  have split : replacedJobs (front ++ .replaceTile job :: back) =
      replacedJobs front ++ job :: replacedJobs back := by
    simp [replacedJobs]
  rw [split, List.pairwise_append, List.pairwise_cons] at apart
  obtain ⟨-, ⟨behind, -⟩, before⟩ := apart
  have start : (disk.run front).tile? job.layer job.fileName =
      disk.tile? job.layer job.fileName := by
    refine tile?_run_other fun other inside same => ?_
    exact before other inside job List.mem_cons_self ⟨same.1.symm, same.2.symm⟩
  have run : disk.run (front ++ .replaceTile job :: back) =
      ((disk.run front).apply (.replaceTile job)).run back := by
    unfold TileDisk.run
    rw [List.foldl_append, List.foldl_cons]
  rw [run, tile?_run_other fun other inside => behind other inside, tile?_apply_own named,
    merged_congr named start]

end TileDisk

end NdtSlam
