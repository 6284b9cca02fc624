import Mathlib.Order.WithBot
import NdtSlam.CleanMap.ObservationEpochs

/-! What the cells of a discarded clean build come to when they are given back. -/

namespace NdtSlam

abbrev CellHeights := WithBot (ℚᵒᵈ × ℚ)

namespace CellHeights

def shown (heights : CellHeights) : Option StaticEvidenceCellGeometry :=
  Option.map (fun heights => ⟨.fin (OrderDual.ofDual heights.1), .fin heights.2⟩) heights

theorem shown_injective : Function.Injective shown := by
  apply Option.map_injective
  rintro ⟨low, high⟩ ⟨low', high'⟩ same
  simpa [Scalar.fin.injEq] using same

@[simp] theorem shown_eq_none {heights : CellHeights} : shown heights = none ↔ heights = ⊥ :=
  Option.map_eq_none_iff

theorem le_iff_shown {old new : CellHeights} (some_ : new ≠ ⊥) :
    old ≤ new ↔ ∀ before after, shown old = some before → shown new = some after →
      after.minZ ≤ before.minZ ∧ before.maxZ ≤ after.maxZ := by
  cases new with
  | none => exact absurd rfl some_
  | some new =>
    cases old with
    | none => exact ⟨fun _ _ _ nothing => (by cases nothing), fun _ => bot_le⟩
    | some old =>
      refine WithBot.coe_le_coe.trans ⟨?_, fun held => ?_⟩
      · rintro ⟨low, high⟩ _ _ ⟨rfl⟩ ⟨rfl⟩
        exact ⟨Scalar.fin_le_fin.2 low, Scalar.fin_le_fin.2 high⟩
      · obtain ⟨low, high⟩ := held _ _ rfl rfl
        exact ⟨Scalar.fin_le_fin.1 low, Scalar.fin_le_fin.1 high⟩

end CellHeights

open CellHeights

structure MapCommit where
  freeCells : List Int
  occupiedCells : List (Int × ℚ × ℚ)

namespace MapCommit

def geometry (item : Int × ℚ × ℚ) : Int × StaticEvidenceCellGeometry :=
  (item.1, ⟨.fin item.2.1, .fin item.2.2⟩)

def heightsAt (key : Int) (item : Int × ℚ × ℚ) : CellHeights :=
  if item.1 = key then ((OrderDual.toDual item.2.1, item.2.2) : ℚᵒᵈ × ℚ) else ⊥

def seen (key : Int) (items : List (Int × ℚ × ℚ)) : CellHeights :=
  (items.map (heightsAt key)).foldr (· ⊔ ·) ⊥

theorem seen_eq_bot {key : Int} {items : List (Int × ℚ × ℚ)} :
    seen key items = ⊥ ↔ key ∉ items.map (·.1) := by
  induction items with
  | nil => simp [seen]
  | cons item rest ih =>
    rw [List.map_cons, List.mem_cons, not_or, ← ih]
    change heightsAt key item ⊔ seen key rest = ⊥ ↔ _
    rw [sup_eq_bot_iff]
    refine and_congr_left fun _ => ?_
    unfold heightsAt
    split_ifs with own
    · simp [own]
    · simp [Ne.symm own]

end MapCommit

open MapCommit

namespace StaticObservations

def addCommits (self : StaticObservations) (epoch : Nat) (commits : List MapCommit) :
    StaticObservations :=
  commits.foldl (fun pending commit =>
    pending.addCommit epoch commit.freeCells (commit.occupiedCells.map geometry)) self

/-- The same cells are pending, with the same heights. -/
structure SameCells (pending other : StaticObservations) : Prop where
  observed : pending.observed = other.observed
  observable : pending.observable = other.observable
  free : pending.free = other.free

structure Shows (pending : StaticObservations) (key : Int) (range : CellHeights) : Prop where
  heights : pending.observed[key]? = shown range
  free : key ∈ pending.free → range = ⊥

variable {self batch : StaticObservations} {epoch : Nat} {key : Int} {range old new : CellHeights}

theorem mergeHeights_shown {cells : CellMap StaticEvidenceCellGeometry}
    (reads : cells[key]? = shown range) (item : Int × ℚ × ℚ) :
    (mergeHeights cells (geometry item))[key]? = shown (range ⊔ heightsAt key item) := by
  unfold mergeHeights geometry heightsAt
  by_cases own : item.1 = key
  · rw [if_pos own, own, reads]
    cases range with
    | none => exact getElem?_insert_own _ _
    | some range =>
      refine (getElem?_insert_own _ _).trans ?_
      dsimp only [shown]
      rw [Scalar.minOf_fin_fin, Scalar.maxOf_fin_fin]
      rfl
  · rw [if_neg own, sup_bot_eq, ← reads]
    split <;> exact getElem?_insert_other _ own _

theorem foldl_mergeHeights_shown {cells : CellMap StaticEvidenceCellGeometry}
    (reads : cells[key]? = shown range) (items : List (Int × ℚ × ℚ)) :
    ((items.map geometry).foldl mergeHeights cells)[key]? = shown (range ⊔ seen key items) := by
  induction items generalizing cells range with
  | nil => exact reads.trans (congrArg shown (sup_bot_eq range).symm)
  | cons item rest ih =>
    rw [List.map_cons, List.foldl_cons, ih (mergeHeights_shown reads item), sup_assoc]
    rfl

theorem Shows.addCommit (shows_ : self.Shows key range) (commit : MapCommit) :
    let next := self.addCommit epoch commit.freeCells (commit.occupiedCells.map geometry)
    next.Shows key ((if key ∈ commit.freeCells then ⊥ else range) ⊔
        seen key commit.occupiedCells) ∧
      (key ∈ next.free ↔
        (key ∈ commit.freeCells ∨ key ∈ self.free) ∧ seen key commit.occupiedCells = ⊥) := by
  have free : key ∈ (self.addCommit epoch commit.freeCells
      (commit.occupiedCells.map geometry)).free ↔
        (key ∈ commit.freeCells ∨ key ∈ self.free) ∧ seen key commit.occupiedCells = ⊥ := by
    simp only [StaticObservations.addCommit]
    rw [mem_foldl_erase, mem_foldl_insert, List.map_map, seen_eq_bot]
    rfl
  refine ⟨⟨?_, fun member => ?_⟩, free⟩
  · apply foldl_mergeHeights_shown
    rw [getElem?_foldl_erase, shows_.heights]
    split_ifs <;> rfl
  · obtain ⟨either, unseen⟩ := free.mp member
    rw [unseen, sup_bot_eq]
    split_ifs with freed
    · rfl
    · exact shows_.free (either.resolve_left freed)

structure Beside (batch newer whole : StaticObservations) (key : Int) (commits : List MapCommit)
    (old new : CellHeights) : Prop where
  alone : newer.Shows key new
  freed : (∃ commit ∈ commits, key ∈ commit.freeCells) →
    whole.Shows key new ∧ (key ∈ whole.free ↔ key ∈ newer.free) ∧ (key ∈ newer.free ∨ new ≠ ⊥)
  kept : (¬∃ commit ∈ commits, key ∈ commit.freeCells) →
    whole.Shows key (old ⊔ new) ∧ (key ∈ whole.free ↔ key ∈ batch.free ∧ new = ⊥) ∧
      key ∉ newer.free

theorem addCommits_concat (commits : List MapCommit) (commit : MapCommit) :
    self.addCommits epoch (commits ++ [commit]) = (self.addCommits epoch commits).addCommit epoch
      commit.freeCells (commit.occupiedCells.map geometry) :=
  List.foldl_concat ..

theorem Beside.addCommit {newer whole : StaticObservations} {commits : List MapCommit}
    (held : Beside batch newer whole key commits old new) (commit : MapCommit) :
    ∃ joined, Beside batch
      (newer.addCommit epoch commit.freeCells (commit.occupiedCells.map geometry))
      (whole.addCommit epoch commit.freeCells (commit.occupiedCells.map geometry)) key
      (commits ++ [commit]) old joined := by
  have last : (∃ other ∈ commits ++ [commit], key ∈ other.freeCells) ↔
      (∃ other ∈ commits, key ∈ other.freeCells) ∨ key ∈ commit.freeCells := by
    simp [or_and_right, exists_or]
  obtain ⟨alone, free⟩ := @Shows.addCommit _ epoch _ _ held.alone commit
  have both : ∀ {range}, whole.Shows key range → _ := fun shows_ =>
    @Shows.addCommit _ epoch _ _ shows_ commit
  generalize whole.addCommit epoch commit.freeCells (commit.occupiedCells.map geometry) = next at *
  generalize newer.addCommit epoch commit.freeCells (commit.occupiedCells.map geometry) = next' at *
  generalize seen key commit.occupiedCells = range at *
  by_cases now : key ∈ commit.freeCells
  · rw [if_pos now, bot_sup_eq] at alone
    simp only [now, true_or, true_and, if_true, bot_sup_eq] at free both
    refine ⟨range, alone, fun _ => ?_, fun never => absurd (last.mpr (.inr now)) never⟩
    by_cases earlier : ∃ other ∈ commits, key ∈ other.freeCells
    · obtain ⟨shows_, same⟩ := both (held.freed earlier).1
      exact ⟨shows_, same.trans free.symm, (or_congr_left free).mpr (em _)⟩
    · obtain ⟨shows_, same⟩ := both (held.kept earlier).1
      exact ⟨shows_, same.trans free.symm, (or_congr_left free).mpr (em _)⟩
  · rw [if_neg now] at alone
    simp only [now, false_or, if_false] at free both
    refine ⟨new ⊔ range, alone, fun once => ?_, fun never => ?_⟩
    · obtain ⟨shows_, same, either⟩ := held.freed ((last.mp once).resolve_right now)
      obtain ⟨shows', same'⟩ := both shows_
      refine ⟨shows', by rw [same', free, same], ?_⟩
      rw [free, ne_eq, sup_eq_bot_iff]
      by_cases unseen : range = ⊥
      · exact either.imp (⟨·, unseen⟩) fun some both => some both.1
      · exact .inr fun both => unseen both.2
    · obtain ⟨shows_, same, absent⟩ := held.kept fun earlier => never (last.mpr (.inl earlier))
      obtain ⟨shows', same'⟩ := both shows_
      rw [sup_assoc] at shows'
      exact ⟨shows', by rw [same', same, sup_eq_bot_iff, and_assoc], fun member =>
        absent (free.mp member).1⟩

theorem addCommits_beside (shows_ : batch.Shows key old) (commits : List MapCommit) :
    ∃ new, Beside batch (addCommits {} epoch commits) (batch.addCommits epoch commits) key
      commits old new := by
  induction commits using List.reverseRecOn with
  | nil =>
    refine ⟨⊥, ⟨by simp [addCommits]; rfl, fun _ => rfl⟩, by simp, fun _ => ⟨?_, ?_, ?_⟩⟩
    · rw [sup_bot_eq]
      exact shows_
    · simp [addCommits]
    · simp [addCommits]
  | append_singleton commits commit ih =>
    obtain ⟨new, held⟩ := ih
    rw [addCommits_concat, addCommits_concat]
    exact held.addCommit commit

theorem mem_addCommits_observable (commits : List MapCommit) :
    key ∈ (batch.addCommits epoch commits).observable ↔
      key ∈ (addCommits {} epoch commits).observable ∨ key ∈ batch.observable := by
  induction commits using List.reverseRecOn with
  | nil => simp [addCommits]
  | append_singleton commits commit ih =>
    rw [addCommits_concat, addCommits_concat, StaticObservations.addCommit,
      StaticObservations.addCommit, mem_foldl_insert, mem_foldl_insert, ih, or_assoc]

theorem restore_observed (alone : self.Shows key new) (batched : batch.Shows key old) :
    (self.restore batch).observed[key]? = shown (if key ∈ self.free then new else new ⊔ old) := by
  have merged := foldl_entries_view (fun cells : CellMap StaticEvidenceCellGeometry => cells[key]?)
    (fun cells item => if self.free.contains item.1 then cells else mergeHeights cells item)
    (fun value heights => if self.free.contains key then heights else
      some (heights.elim value fun heights =>
        ⟨heights.minZ.minOf value.minZ, heights.maxZ.maxOf value.maxZ⟩))
    (fun cells item (other : item.1 ≠ key) => by
      split_ifs
      · rfl
      · unfold mergeHeights
        split <;> exact getElem?_insert_other _ other _)
    (fun cells value => by
      split_ifs
      · rfl
      · unfold mergeHeights
        split <;> rename_i found <;> rw [found] <;> exact getElem?_insert_own _ _)
    batch.observed self.observed
  refine merged.trans ?_
  rw [batched.heights, alone.heights]
  simp only [Std.ExtTreeSet.contains_iff_mem]
  cases old with
  | none => split_ifs <;> [rfl; exact congrArg shown (sup_bot_eq new).symm]
  | some old =>
    dsimp only [shown, Option.map_some]
    split_ifs
    · rfl
    · cases new with
      | none => rfl
      | some new =>
        dsimp only [Option.map_some, Option.elim]
        rw [Scalar.minOf_fin_fin, Scalar.maxOf_fin_fin]
        rfl

theorem mem_restore_free : key ∈ (self.restore batch).free ↔ key ∈ self.free ∨
    key ∈ batch.free ∧ (self.restore batch).observed[key]? = none := by
  have added : ∀ (keys : List Int) (free : CellKeySet)
      (observed : CellMap StaticEvidenceCellGeometry), key ∈ keys.foldl (fun free key =>
        if observed.contains key then free else free.insert key) free ↔
          key ∈ free ∨ key ∈ keys ∧ observed[key]? = none := by
    intro keys free observed
    induction keys generalizing free with
    | nil => simp
    | cons head rest ih =>
      rw [List.foldl_cons, ih, List.mem_cons]
      rw [Std.ExtTreeMap.contains_eq_isSome_getElem?]
      by_cases own : key = head
      · subst own
        cases observed[key]? <;> simp
      · split_ifs <;> simp [own, Ne.symm own]
  exact (added _ _ _).trans (by rw [Std.ExtTreeSet.mem_toList]; rfl)

end StaticObservations

open StaticObservations

variable {epoch : Nat}

/-- Giving a batch back is as if it had never been taken, unless a cell of it that was free
since is occupied again, at heights that do not hold those of the batch. -/
theorem restored_as_if_never_taken_iff (earlier later : List MapCommit) :
    let batch := addCommits {} epoch earlier
    let newer := addCommits {} epoch later
    SameCells (newer.restore batch) (addCommits {} epoch (earlier ++ later)) ↔
      ∀ key old new, batch.observed[key]? = some old → newer.observed[key]? = some new →
        (∃ commit ∈ later, key ∈ commit.freeCells) →
          new.minZ ≤ old.minZ ∧ old.maxZ ≤ new.maxZ := by
  intro batch newer
  have whole : addCommits {} epoch (earlier ++ later) = batch.addCommits epoch later :=
    List.foldl_append ..
  rw [whole]
  have cell : ∀ key, ∃ old new, batch.Shows key old ∧
      Beside batch newer (batch.addCommits epoch later) key later old new := fun key => by
    obtain ⟨old, before⟩ := @addCommits_beside {} epoch key ⊥ ⟨by simp; rfl, by simp⟩ earlier
    exact ⟨old, _, before.alone, (addCommits_beside before.alone later).choose_spec⟩
  have observed : ∀ key, ((newer.restore batch).observed[key]? =
      (batch.addCommits epoch later).observed[key]? ↔
        ∀ old new, batch.observed[key]? = some old → newer.observed[key]? = some new →
          (∃ commit ∈ later, key ∈ commit.freeCells) →
            new.minZ ≤ old.minZ ∧ old.maxZ ≤ new.maxZ) ∧
      (key ∈ (newer.restore batch).free ↔ key ∈ (batch.addCommits epoch later).free) := by
    intro key
    obtain ⟨old, new, before, alone, freed, kept⟩ := cell key
    rw [mem_restore_free, restore_observed alone before, before.heights, alone.heights,
      shown_eq_none]
    by_cases seen : ∃ commit ∈ later, key ∈ commit.freeCells
    · obtain ⟨whole, same, either⟩ := freed seen
      rw [whole.heights, same, shown_injective.eq_iff]
      by_cases free : key ∈ newer.free
      · rw [if_pos free, alone.free free]
        exact ⟨⟨fun _ _ _ _ nothing => (by cases nothing), fun _ => rfl⟩, by simp [free]⟩
      · have some_ := either.resolve_left free
        rw [if_neg free, sup_eq_left, le_iff_shown some_, sup_eq_bot_iff]
        exact ⟨by simp [seen], by simp [free, some_]⟩
    · obtain ⟨whole, same, absent⟩ := kept seen
      rw [whole.heights, same, if_neg absent, sup_comm, sup_eq_bot_iff]
      refine ⟨by simp [seen], ?_⟩
      simp only [absent, false_or]
      exact and_congr_right fun free => and_iff_right (before.free free)
  constructor
  · intro same key
    exact (observed key).1.mp (congrArg (·[key]?) same.observed)
  · intro held
    refine ⟨Std.ExtTreeMap.ext_getElem? fun key => (observed key).1.mpr (held key), ?_,
      Std.ExtTreeSet.ext_mem fun key => (observed key).2⟩
    refine Std.ExtTreeSet.ext_mem fun key => ?_
    rw [mem_addCommits_observable]
    unfold StaticObservations.restore
    rw [mem_foldl_insert, Std.ExtTreeSet.mem_toList, or_comm]

theorem tall_cell_returns :
    let earlier : List MapCommit := [⟨[], [(0, 0, 5)]⟩]
    let later : List MapCommit := [⟨[0], []⟩, ⟨[], [(0, 1, 2)]⟩]
    ((addCommits {} 0 later).restore (addCommits {} 0 earlier)).observed[(0 : Int)]? =
        some ⟨0, 5⟩ ∧
      (addCommits {} 0 (earlier ++ later)).observed[(0 : Int)]? = some ⟨1, 2⟩ := by
  decide

end NdtSlam
