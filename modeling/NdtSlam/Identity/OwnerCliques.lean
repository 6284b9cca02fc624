import Mathlib.Data.Finset.Powerset
import Mathlib.Order.Preorder.Finite
import NdtSlam.Identity.OwnerSurface

/-! Every maximal clique is found once, and what this means for the owner of a load. -/

namespace NdtSlam

variable {compat : Nat → Nat → Bool}

def Clique (compat : Nat → Nat → Bool) (set : Finset Nat) : Prop :=
  ∀ v ∈ set, ∀ w ∈ set, v ≠ w → compat v w = true

structure Finds (compat : Nat → Nat → Bool) (clique candidates excluded : List Nat)
    (set : Finset Nat) : Prop where
  holds : ∀ v ∈ clique, v ∈ set
  among : ∀ v ∈ set, v ∈ clique ∨ v ∈ candidates
  clique : Clique compat set
  maximal : ∀ v, v ∈ candidates ∨ v ∈ excluded → v ∉ set → ∃ w ∈ set, compat v w = false

structure Search (compat : Nat → Nat → Bool) (clique candidates excluded : List Nat) : Prop where
  distinct : candidates.Nodup
  apart : ∀ v ∈ candidates, v ∉ clique ∧ v ∉ excluded
  outside : ∀ v ∈ excluded, v ∉ clique
  extends_ : ∀ v, v ∈ candidates ∨ v ∈ excluded → ∀ w ∈ clique, compat v w = true
  clique : Clique compat clique.toFinset

section Enumeration

variable (symmetric : ∀ v w, compat v w = compat w v) (irreflexive : ∀ v, compat v v = false)
  {clique rest tried : List Nat} {vertex : Nat} {set : Finset Nat}

include symmetric irreflexive

theorem Search.extend (search : Search compat clique (vertex :: rest) tried) :
    Search compat (clique ++ [vertex]) (rest.filter (compat vertex))
      (tried.filter (compat vertex)) := by
  obtain ⟨fresh, distinct⟩ := List.nodup_cons.mp search.distinct
  refine ⟨distinct.filter _, fun v member => ?_, fun v member => ?_, fun v member w inside => ?_,
    fun v inside w inside' other => ?_⟩
  · obtain ⟨member, -⟩ := List.mem_filter.mp member
    obtain ⟨out, new⟩ := search.apart v (List.mem_cons_of_mem _ member)
    have other : v ≠ vertex := fun same => fresh (same ▸ member)
    exact ⟨by simp [out, other], fun old => new (List.mem_of_mem_filter old)⟩
  · obtain ⟨member, fits⟩ := List.mem_filter.mp member
    have other : v ≠ vertex := fun same => by simp [same, irreflexive] at fits
    simp [search.outside v member, other]
  · have fits : compat vertex v = true ∧ (v ∈ vertex :: rest ∨ v ∈ tried) := by
      rcases member with member | member
      · exact ⟨List.of_mem_filter member,
          .inl (List.mem_cons_of_mem _ (List.mem_of_mem_filter member))⟩
      · exact ⟨List.of_mem_filter member, .inr (List.mem_of_mem_filter member)⟩
    rcases List.mem_append.mp inside with old | new
    · exact search.extends_ v fits.2 w old
    · rw [List.mem_singleton.mp new, symmetric]
      exact fits.1
  · have added : ∀ u ∈ clique, compat vertex u = true :=
      search.extends_ vertex (.inl List.mem_cons_self)
    simp only [List.mem_toFinset, List.mem_append, List.mem_singleton] at inside inside'
    rcases inside with old | rfl
    · rcases inside' with old' | rfl
      · exact search.clique v (by simpa using old) w (by simpa using old') other
      · rw [symmetric]
        exact added v old
    · rcases inside' with old' | rfl
      · exact added w old'
      · exact absurd rfl other

omit symmetric irreflexive in
theorem Search.advance (search : Search compat clique (vertex :: rest) tried) :
    Search compat clique rest (tried ++ [vertex]) := by
  obtain ⟨fresh, distinct⟩ := List.nodup_cons.mp search.distinct
  refine ⟨distinct, fun v member => ?_, fun v member => ?_, fun v member => ?_, search.clique⟩
  · obtain ⟨out, new⟩ := search.apart v (List.mem_cons_of_mem _ member)
    have other : v ≠ vertex := fun same => fresh (same ▸ member)
    exact ⟨out, by simp [new, other]⟩
  · rcases List.mem_append.mp member with old | new
    · exact search.outside v old
    · rw [List.mem_singleton.mp new]
      exact (search.apart vertex List.mem_cons_self).1
  · refine search.extends_ v ?_
    simp only [List.mem_append, List.mem_cons] at member ⊢
    tauto

omit irreflexive in
theorem finds_with_iff (inside : vertex ∈ set) : Finds compat clique (vertex :: rest) tried set ↔
      Finds compat (clique ++ [vertex]) (rest.filter (compat vertex))
        (tried.filter (compat vertex)) set := by
  constructor
  · intro finds
    refine ⟨fun v member => ?_, fun v member => ?_, finds.clique, fun v member out => ?_⟩
    · rcases List.mem_append.mp member with old | new
      · exact finds.holds v old
      · rwa [List.mem_singleton.mp new]
    · by_cases same : v = vertex
      · simp [same]
      · rcases finds.among v member with old | new
        · exact .inl (List.mem_append_left _ old)
        · exact .inr (List.mem_filter.mpr ⟨(List.mem_cons.mp new).resolve_left same,
            finds.clique vertex inside v member (Ne.symm same)⟩)
    · refine finds.maximal v (member.imp (fun here => ?_) List.mem_of_mem_filter) out
      exact List.mem_cons_of_mem _ (List.mem_of_mem_filter here)
  · intro finds
    refine ⟨fun v member => finds.holds v (List.mem_append_left _ member), fun v member => ?_,
      finds.clique, fun v member out => ?_⟩
    · rcases finds.among v member with old | new
      · refine (List.mem_append.mp old).imp_right fun here => List.mem_cons.mpr (.inl ?_)
        exact List.mem_singleton.mp here
      · exact .inr (List.mem_cons_of_mem _ (List.mem_of_mem_filter new))
    · by_cases fits : compat vertex v = true
      · refine finds.maximal v (member.imp (fun here => ?_) fun here => ?_) out
        · have other : v ≠ vertex := fun same => out (same ▸ inside)
          exact List.mem_filter.mpr ⟨(List.mem_cons.mp here).resolve_left other, fits⟩
        · exact List.mem_filter.mpr ⟨here, fits⟩
      · exact ⟨vertex, inside, by rw [symmetric]; simpa using fits⟩

omit symmetric irreflexive in
theorem finds_without_iff (outside : vertex ∉ set) :
    Finds compat clique (vertex :: rest) tried set ↔
      Finds compat clique rest (tried ++ [vertex]) set := by
  have same : ∀ v, (v ∈ vertex :: rest ∨ v ∈ tried) ↔ (v ∈ rest ∨ v ∈ tried ++ [vertex]) := by
    intro v
    simp only [List.mem_append, List.mem_cons]
    tauto
  constructor
  · intro finds
    refine ⟨finds.holds, fun v member => (finds.among v member).imp_right fun here => ?_,
      finds.clique, fun v member => finds.maximal v ((same v).mpr member)⟩
    exact (List.mem_cons.mp here).resolve_left fun is => outside (is ▸ member)
  · intro finds
    exact ⟨finds.holds, fun v member => (finds.among v member).imp_right (List.mem_cons_of_mem _),
      finds.clique, fun v member => finds.maximal v ((same v).mp member)⟩

open Classical in
theorem count_foldl {visit : List Nat × List Nat × List (List Nat) → Nat →
      List Nat × List Nat × List (List Nat)}
    {extended : List Nat → List Nat → List Nat → List (List Nat)} {depth : Nat}
    (visits : ∀ remaining tried found vertex, visit (remaining, tried, found) vertex =
      (remaining.filter (· != vertex), tried ++ [vertex], found ++ extended (clique ++ [vertex])
        (remaining.filter (compat vertex)) (tried.filter (compat vertex))))
    (counts : ∀ {clique candidates excluded}, Search compat clique candidates excluded →
      candidates.length < depth → ((extended clique candidates excluded).map List.toFinset).count
        set = if Finds compat clique candidates excluded set then 1 else 0)
    (search : Search compat clique rest tried) (short : rest.length ≤ depth)
    (open_ : rest ≠ [] ∨ tried ≠ []) (found : List (List Nat)) :
    ((rest.foldl visit (rest, tried, found)).2.2.map List.toFinset).count set =
      (found.map List.toFinset).count set +
        if Finds compat clique rest tried set then 1 else 0 := by
  -- Every candidate is visited once, and a set belongs to the first of its vertices.
  induction rest generalizing tried found with
  | nil =>
    rw [List.foldl_nil, if_neg, add_zero]
    intro finds
    obtain ⟨vertex, member⟩ := List.exists_mem_of_ne_nil _ (open_.resolve_left (· rfl))
    have same : ∀ w ∈ set, w ∈ clique := fun w inside =>
      (finds.among w inside).resolve_right List.not_mem_nil
    obtain ⟨w, inside, apart⟩ := finds.maximal vertex (.inr member) fun inside =>
      search.outside vertex member (same vertex inside)
    rw [search.extends_ vertex (.inr member) w (same w inside)] at apart
    cases apart
  | cons vertex rest ih =>
    obtain ⟨fresh, -⟩ := List.nodup_cons.mp search.distinct
    have others : (vertex :: rest).filter (· != vertex) = rest := by
      rw [List.filter_cons_of_neg (by simp), List.filter_eq_self]
      exact fun v member => bne_iff_ne.mpr fun same => fresh (same ▸ member)
    have fitting : (vertex :: rest).filter (compat vertex) = rest.filter (compat vertex) :=
      List.filter_cons_of_neg (by simp [irreflexive])
    rw [List.foldl_cons, visits, others, fitting, ih search.advance (Nat.le_of_succ_le short)
      (.inr (by simp)), List.map_append, List.count_append,
      counts (search.extend symmetric irreflexive)
        ((List.length_filter_le _ _).trans_lt short), add_assoc]
    congr 1
    by_cases inside : vertex ∈ set
    · have later : ¬Finds compat clique rest (tried ++ [vertex]) set := fun finds =>
        (finds.among vertex inside).elim (search.apart vertex List.mem_cons_self).1 fresh
      rw [if_neg later, add_zero, finds_with_iff symmetric inside]
    · have now : ¬Finds compat (clique ++ [vertex]) (rest.filter (compat vertex))
          (tried.filter (compat vertex)) set := fun finds =>
        inside (finds.holds vertex (by simp))
      rw [if_neg now, zero_add, finds_without_iff inside]

open Classical in
theorem count_maximalCliquesRec {depth : Nat} {candidates excluded : List Nat}
    (search : Search compat clique candidates excluded) (deep : candidates.length < depth) :
    ((maximalCliquesRec compat depth clique candidates excluded).map List.toFinset).count set =
      if Finds compat clique candidates excluded set then 1 else 0 := by
  induction depth generalizing clique candidates excluded with
  | zero => omega
  | succ depth ih =>
    unfold maximalCliquesRec
    by_cases done : (candidates.isEmpty && excluded.isEmpty) = true
    · rw [if_pos done]
      simp only [Bool.and_eq_true, List.isEmpty_iff] at done
      obtain ⟨rfl, rfl⟩ := done
      have whole : Finds compat clique [] [] set ↔ clique.toFinset = set := by
        constructor
        · intro finds
          ext v
          rw [List.mem_toFinset]
          exact ⟨finds.holds v, fun inside => (finds.among v inside).resolve_right List.not_mem_nil⟩
        · rintro rfl
          exact ⟨fun v member => List.mem_toFinset.mpr member,
            fun v inside => .inl (List.mem_toFinset.mp inside), search.clique,
            fun v nowhere => by simp at nowhere⟩
      simp [List.count_singleton, whole]
    · rw [if_neg done]
      have open_ : candidates ≠ [] ∨ excluded ≠ [] := by
        simpa [imp_iff_not_or] using done
      refine (count_foldl symmetric irreflexive (fun _ _ _ _ => rfl) ih search
        (Nat.lt_succ_iff.mp deep) open_ []).trans ?_
      rw [List.map_nil, List.count_nil, zero_add]

end Enumeration

/-- A clique of the first vertices that is part of no greater one. -/
abbrev MaximalClique (compat : Nat → Nat → Bool) (size : Nat) : Finset Nat → Prop :=
  Maximal fun set => set ⊆ Finset.range size ∧ Clique compat set

def neighbourhood (compat : Nat → Nat → Bool) (size : Nat) (anchors : Finset Nat) : Finset Nat :=
  (Finset.range size).filter fun v => ∀ anchor ∈ anchors, v = anchor ∨ compat anchor v = true

section Graph

variable {size : Nat} (symmetric : ∀ v w, compat v w = compat w v)
  (irreflexive : ∀ v, compat v v = false) {anchors set : Finset Nat}

include symmetric in
theorem Clique.insert (whole : Clique compat set) {vertex : Nat}
    (fits : ∀ w ∈ set, w ≠ vertex → compat vertex w = true) :
    Clique compat (Insert.insert vertex set) := by
  intro v inside w inside' other
  rcases Finset.mem_insert.mp inside with rfl | old
  · exact fits w ((Finset.mem_insert.mp inside').resolve_left (Ne.symm other)) (Ne.symm other)
  · rcases Finset.mem_insert.mp inside' with rfl | old'
    · rw [symmetric]
      exact fits v old other
    · exact whole v old w old' other

include symmetric in
theorem finds_iff_maximalClique :
    Finds compat [] (List.range size) [] set ↔ MaximalClique compat size set := by
  constructor
  · intro finds
    refine ⟨⟨fun v inside => ?_, finds.clique⟩, fun wider ⟨among, whole⟩ smaller v inside => ?_⟩
    · exact Finset.mem_range.mpr (List.mem_range.mp
        ((finds.among v inside).resolve_left List.not_mem_nil))
    · by_contra out
      obtain ⟨w, member, apart⟩ := finds.maximal v
        (.inl (List.mem_range.mpr (Finset.mem_range.mp (among inside)))) out
      have fits := whole v inside w (smaller member) fun same => out (same ▸ member)
      rw [fits] at apart
      cases apart
  · rintro ⟨⟨among, whole⟩, greatest⟩
    refine ⟨fun v nowhere => absurd nowhere List.not_mem_nil, fun v inside =>
      .inr (List.mem_range.mpr (Finset.mem_range.mp (among inside))), whole,
      fun v member out => ?_⟩
    by_contra none
    have fits : ∀ w ∈ set, w ≠ v → compat v w = true := fun w inside _ => by
      by_contra apart
      exact none ⟨w, inside, by simpa using apart⟩
    have bound := List.mem_range.mp (member.resolve_right List.not_mem_nil)
    refine out (greatest ⟨?_, Clique.insert symmetric whole fits⟩ (Finset.subset_insert v set)
      (Finset.mem_insert_self v set))
    exact Finset.insert_subset (Finset.mem_range.mpr bound) among

open Classical in
include symmetric irreflexive in
theorem count_maximalCliques {depth : Nat} (deep : size < depth) :
    ((maximalCliquesRec compat depth [] (List.range size) []).map List.toFinset).count set =
      if MaximalClique compat size set then 1 else 0 := by
  have search : Search compat [] (List.range size) [] := by
    refine ⟨List.nodup_range, ?_, ?_, ?_, ?_⟩ <;> simp [Clique]
  rw [count_maximalCliquesRec symmetric irreflexive search (by simpa using deep),
    finds_iff_maximalClique symmetric]

theorem Clique.extends_to_maximal (among : set ⊆ Finset.range size) (whole : Clique compat set) :
    ∃ wider, set ⊆ wider ∧ MaximalClique compat size wider := by
  have finite : {set | set ⊆ Finset.range size ∧ Clique compat set}.Finite :=
    (Finset.range size).powerset.finite_toSet.subset fun set inside =>
      Finset.mem_coe.mpr (Finset.mem_powerset.mpr inside.1)
  exact finite.exists_le_maximal ⟨among, whole⟩

include symmetric irreflexive in
theorem mem_maximalCliques_iff :
    (∃ clique ∈ maximalCliques compat size, clique.toFinset = set) ↔
      MaximalClique compat size set := by
  classical
  rw [← List.mem_map, ← List.one_le_count_iff]
  unfold maximalCliques
  rw [count_maximalCliques symmetric irreflexive (Nat.lt_succ_self size)]
  split_ifs with found <;> simp [found]

theorem exists_single_clique (symmetric : ∀ v w, compat v w = compat w v)
    (irreflexive : ∀ v, compat v v = false) (among : anchors ⊆ Finset.range size)
    (whole : Clique compat (neighbourhood compat size anchors)) (anchored : Clique compat anchors) :
    ∃ chosen, (maximalCliques compat size).filter (anchors ⊆ ·.toFinset) = [chosen] := by
  classical
  have around : anchors ⊆ neighbourhood compat size anchors := fun v inside =>
    Finset.mem_filter.mpr ⟨among inside, fun anchor there => or_iff_not_imp_left.mpr fun other =>
      anchored anchor there v inside (Ne.symm other)⟩
  have fits : ∀ {set}, set ⊆ Finset.range size → Clique compat set → anchors ⊆ set →
      set ⊆ neighbourhood compat size anchors := fun bound clique wide v inside =>
    Finset.mem_filter.mpr ⟨bound inside, fun anchor there => or_iff_not_imp_left.mpr fun other =>
      clique anchor (wide there) v inside (Ne.symm other)⟩
  have greatest : MaximalClique compat size (neighbourhood compat size anchors) :=
    ⟨⟨Finset.filter_subset _ _, whole⟩, fun set clique wide =>
      fits clique.1 clique.2 (around.trans wide)⟩
  rw [← List.length_eq_one_iff, ← List.countP_eq_length_filter]
  have same : ∀ clique ∈ maximalCliques compat size, decide (anchors ⊆ clique.toFinset) = true ↔
      (clique.toFinset == neighbourhood compat size anchors) = true := fun clique member => by
    have maximal := (mem_maximalCliques_iff symmetric irreflexive).mp ⟨clique, member, rfl⟩
    rw [decide_eq_true_eq, beq_iff_eq]
    refine ⟨fun wide => ?_, fun same => same ▸ around⟩
    have smaller := fits maximal.1.1 maximal.1.2 wide
    exact smaller.antisymm (maximal.2 greatest.1 smaller)
  rw [List.countP_congr same]
  have once := @count_maximalCliques compat size symmetric irreflexive
    (neighbourhood compat size anchors) (size + 1) (Nat.lt_succ_self size)
  rw [if_pos greatest, List.count, List.countP_map] at once
  exact once

theorem single_clique_eq (symmetric : ∀ v w, compat v w = compat w v)
    (irreflexive : ∀ v, compat v v = false) (among : anchors ⊆ Finset.range size)
    (whole : Clique compat anchors) {chosen : List Nat}
    (single : (maximalCliques compat size).filter (anchors ⊆ ·.toFinset) = [chosen]) :
    chosen.toFinset = neighbourhood compat size anchors ∧
      Clique compat (neighbourhood compat size anchors) := by
  have found : ∀ set, MaximalClique compat size set → anchors ⊆ set → chosen.toFinset = set :=
    fun set greatest wide => by
      obtain ⟨clique, member, rfl⟩ :=
        (mem_maximalCliques_iff symmetric irreflexive).mpr greatest
      have member : clique ∈ (maximalCliques compat size).filter (anchors ⊆ ·.toFinset) :=
        List.mem_filter.mpr ⟨member, decide_eq_true wide⟩
      rw [single, List.mem_singleton] at member
      rw [member]
  have member : chosen ∈ (maximalCliques compat size).filter (anchors ⊆ ·.toFinset) :=
    single ▸ List.mem_singleton_self chosen
  obtain ⟨member, wide⟩ := List.mem_filter.mp member
  have greatest := (mem_maximalCliques_iff symmetric irreflexive).mp ⟨chosen, member, rfl⟩
  have same : chosen.toFinset = neighbourhood compat size anchors := by
    ext v
    rw [neighbourhood, Finset.mem_filter]
    constructor
    · intro inside
      refine ⟨greatest.1.1 inside, fun anchor there => or_iff_not_imp_left.mpr fun other => ?_⟩
      exact greatest.1.2 anchor (of_decide_eq_true wide there) v inside (Ne.symm other)
    · rintro ⟨bound, fits⟩
      obtain ⟨wider, holds, maximal⟩ := Clique.extends_to_maximal
        (Finset.insert_subset bound among) (Clique.insert symmetric whole
          fun w there other => by
            rw [symmetric]
            exact (fits w there).resolve_left (Ne.symm other))
      rw [found wider maximal ((Finset.subset_insert v anchors).trans holds)]
      exact holds (Finset.mem_insert_self v anchors)
  exact ⟨same, same ▸ greatest.1.2⟩

end Graph

theorem only_clique_iff {size : Nat} (symmetric : ∀ v w, compat v w = compat w v)
    (irreflexive : ∀ v, compat v v = false) :
    (∃ chosen, maximalCliques compat size = [chosen]) ↔ Clique compat (Finset.range size) := by
  have all : (maximalCliques compat size).filter (∅ ⊆ ·.toFinset) = maximalCliques compat size :=
    List.filter_eq_self.mpr fun clique _ => decide_eq_true (Finset.empty_subset _)
  have whole : neighbourhood compat size ∅ = Finset.range size := by
    simp [neighbourhood]
  have nothing : Clique compat ∅ := by simp [Clique]
  rw [← all, ← whole]
  constructor
  · rintro ⟨chosen, single⟩
    exact (single_clique_eq symmetric irreflexive (Finset.empty_subset _) nothing single).2
  · exact fun clique => exists_single_clique symmetric irreflexive (Finset.empty_subset _) clique
      nothing

/-! ### The owner of a load -/

section Owners

variable [IdentityMath] {groups : List CargoPhysicalGroupObservation}
  {frozenFootprint : CargoFootprintSnapshot} {frozenOwnerCells : List CargoFootprintGridIndex}
  {config : CargoVerticalEvidenceConfig} {maximumSizeRelativeStep : Scalar} {anchorIndex : Nat}
  {cells : List (List CargoFootprintGridIndex)}

omit [IdentityMath] in
theorem cellsCompatible_symmetric (distinct : ∀ set ∈ cells, set.Nodup) (v w : Nat) :
    cellsCompatible config cells v w = cellsCompatible config cells w v := by
  have nodup : ∀ v, (cells.getD v []).Nodup := fun v => by
    rw [List.getD_eq_getElem?_getD]
    cases found : cells[v]? with
    | none => exact List.nodup_nil
    | some set => exact distinct set (List.mem_of_getElem? found)
  have shared : (common (cells.getD v []) (cells.getD w [])).length =
      (common (cells.getD w []) (cells.getD v [])).length := by
    unfold common
    refine List.Perm.length_eq ((List.perm_ext_iff_of_nodup ((nodup v).filter _)
      ((nodup w).filter _)).mpr fun cell => ?_)
    simp [and_comm]
  unfold cellsCompatible
  dsimp only
  rw [shared, Bool.eq_iff_iff]
  simp only [Bool.and_eq_true, bne_iff_ne]
  tauto

omit [IdentityMath] in
theorem cellsCompatible_irreflexive (v : Nat) : cellsCompatible config cells v v = false := by
  simp [cellsCompatible]

def currentFragments (groups : List CargoPhysicalGroupObservation)
    (frozenFootprint : CargoFootprintSnapshot) (frozenOwnerCells : List CargoFootprintGridIndex)
    (config : CargoVerticalEvidenceConfig) : List (Nat × List CargoFootprintGridIndex) :=
  groups.zipIdx.filterMap fun (group, index) =>
    let cells := common ((localInput frozenFootprint).cellsOfPoints config group.unionPointsBase)
      frozenOwnerCells
    if group.groupAmbiguous || group.unionPointsBase.isEmpty || cells.isEmpty then none
    else some (index, cells)

theorem currentFragments_distinct : ∀ set ∈
    (currentFragments groups frozenFootprint frozenOwnerCells config).map (·.2), set.Nodup := by
  intro set member
  obtain ⟨entry, inside, rfl⟩ := List.mem_map.mp member
  obtain ⟨⟨group, index⟩, -, made⟩ := List.mem_filterMap.mp inside
  dsimp only at made
  split_ifs at made
  obtain rfl := Option.some.inj made
  exact (List.nodup_dedup _).filter _

def eligibleGroups (groups : List CargoPhysicalGroupObservation)
    (frozenFootprint : CargoFootprintSnapshot) (frozenOwnerCells : List CargoFootprintGridIndex)
    (config : CargoVerticalEvidenceConfig) (maximumSizeRelativeStep : Scalar) :
    List (CargoPhysicalGroupObservation × Nat) :=
  groups.zipIdx.filter fun (group, _) =>
    mayShowReference frozenFootprint frozenOwnerCells config maximumSizeRelativeStep group

theorem eligibleGroups_distinct {eligible : List (CargoPhysicalGroupObservation × Nat)} :
    ∀ set ∈ eligible.map fun (group, _) => localCellsOfGroup config group, set.Nodup := by
  intro set member
  obtain ⟨⟨group, index⟩, -, rfl⟩ := List.mem_map.mp member
  dsimp only [localCellsOfGroup, localCellsOfPoints]
  split_ifs
  · exact List.nodup_dedup _
  · exact List.nodup_nil

/-- The load is put together just when its groups are one clique. -/
def ReconstructsCliques (groups : List CargoPhysicalGroupObservation)
    (frozenFootprint : CargoFootprintSnapshot) (frozenOwnerCells : List CargoFootprintGridIndex)
    (config : CargoVerticalEvidenceConfig) (maximumSizeRelativeStep : Scalar) : Prop :=
  let eligible := eligibleGroups groups frozenFootprint frozenOwnerCells config
    maximumSizeRelativeStep
  (reconstructLogicalCurrentCargo groups frozenFootprint frozenOwnerCells config
      maximumSizeRelativeStep).valid = true ↔
    frozenFootprint.valid = true ∧ frozenOwnerCells ≠ [] ∧ eligible ≠ [] ∧
      Clique (cellsCompatible config (eligible.map fun (group, _) =>
        localCellsOfGroup config group)) (Finset.range eligible.length)

theorem reconstructed_iff : ReconstructsCliques groups frozenFootprint frozenOwnerCells config
    maximumSizeRelativeStep := by
  unfold ReconstructsCliques
  unfold reconstructLogicalCurrentCargo eligibleGroups
  dsimp only
  generalize groups.zipIdx.filter _ = eligible
  have symmetric := @cellsCompatible_symmetric config
    (eligible.map fun (group, _) => localCellsOfGroup config group) eligibleGroups_distinct
  have irreflexive := @cellsCompatible_irreflexive config
    (eligible.map fun (group, _) => localCellsOfGroup config group)
  have single := @only_clique_iff _ eligible.length symmetric irreflexive
  cases valid : frozenFootprint.valid with
  | false => simp
  | true =>
    cases frozen : frozenOwnerCells with
    | nil => simp
    | cons cell cells =>
      rw [if_neg (by simp)]
      cases some_ : eligible with
      | nil => simp
      | cons group others =>
        rw [if_neg (by simp), ← some_, ← single]
        simp only [ne_eq, reduceCtorEq, not_false_eq_true, true_and, some_]
        generalize maximalCliques _ _ = found
        match found with
        | [] => simp
        | [chosen] => simp
        | first :: second :: rest => simp

/-- The fragments of an anchor are all the groups that fit it, if these are a clique. -/
def FragmentsFitAnchor (groups : List CargoPhysicalGroupObservation) (anchorIndex : Nat)
    (frozenFootprint : CargoFootprintSnapshot) (frozenOwnerCells : List CargoFootprintGridIndex)
    (config : CargoVerticalEvidenceConfig) : Prop :=
  let fragments := currentFragments groups frozenFootprint frozenOwnerCells config
  let compat := cellsCompatible config (fragments.map (·.2))
  let around := neighbourhood compat fragments.length
  let result := postLoadSameOwnerFragmentClique groups anchorIndex frozenFootprint
    frozenOwnerCells config
  (result ≠ [] ↔ anchorIndex < groups.length ∧ frozenFootprint.valid = true ∧
    ∃ anchor, fragments.findIdx? (·.1 == anchorIndex) = some anchor ∧
      Clique compat (around {anchor})) ∧
  (result ≠ [] → ∀ anchor, fragments.findIdx? (·.1 == anchorIndex) = some anchor →
    ∀ group, group ∈ result ↔
      ∃ vertex ∈ around {anchor}, (fragments[vertex]?).map (·.1) = some group)

theorem fragment_clique_iff :
    FragmentsFitAnchor groups anchorIndex frozenFootprint frozenOwnerCells config := by
  unfold FragmentsFitAnchor
  have distinct := @currentFragments_distinct _ groups frozenFootprint frozenOwnerCells config
  unfold postLoadSameOwnerFragmentClique
  change let fragments := currentFragments groups frozenFootprint frozenOwnerCells config; _
  unfold currentFragments at distinct ⊢
  dsimp only at distinct ⊢
  generalize groups.zipIdx.filterMap _ = fragments at distinct ⊢
  have symmetric := @cellsCompatible_symmetric config _ distinct
  have irreflexive := @cellsCompatible_irreflexive config (fragments.map (·.2))
  generalize cellsCompatible config _ = compat at symmetric irreflexive ⊢
  by_cases usable : anchorIndex < groups.length ∧ frozenFootprint.valid = true
  · rw [if_neg (by simp [usable])]
    cases located : fragments.findIdx? (·.1 == anchorIndex) with
    | none => simp
    | some anchor =>
      obtain ⟨bound, -, -⟩ := List.findIdx?_eq_some_iff_getElem.mp located
      have among : {anchor} ⊆ Finset.range fragments.length :=
        Finset.singleton_subset_iff.mpr (Finset.mem_range.mpr bound)
      have anchored : Clique compat {anchor} := by
        intro v inside w inside' other
        rw [Finset.mem_singleton.mp inside, Finset.mem_singleton.mp inside'] at other
        exact absurd rfl other
      have filtered : (maximalCliques compat fragments.length).filter (anchor ∈ ·) =
          (maximalCliques compat fragments.length).filter ({anchor} ⊆ ·.toFinset) :=
        List.filter_congr fun clique _ => by simp
      dsimp only
      rw [filtered]
      have single := fun chosen => @single_clique_eq compat fragments.length {anchor} symmetric
        irreflexive among anchored chosen
      have unique := fun whole => @exists_single_clique compat fragments.length {anchor} symmetric
        irreflexive among whole anchored
      generalize (maximalCliques compat fragments.length).filter _ = found at single unique ⊢
      by_cases one : ∃ chosen, found = [chosen]
      · obtain ⟨chosen, rfl⟩ := one
        obtain ⟨same, whole⟩ := single chosen rfl
        have inside : ∀ vertex, vertex ∈ chosen ↔
            vertex ∈ neighbourhood compat fragments.length {anchor} := fun vertex => by
          rw [← same, List.mem_toFinset]
        have member : anchor ∈ chosen := (inside anchor).mpr (by simp [neighbourhood, bound])
        refine ⟨⟨fun _ => ⟨usable.1, usable.2, anchor, rfl, whole⟩, fun _ => ?_⟩,
          fun _ other same group => ?_⟩
        · exact List.ne_nil_of_mem (List.mem_filterMap.mpr ⟨anchor, member,
            congrArg (Option.map (·.1)) (List.getElem?_eq_getElem bound)⟩)
        · obtain rfl := Option.some.inj same
          simp only [List.mem_filterMap, inside]
      · have none : ¬Clique compat (neighbourhood compat fragments.length {anchor}) :=
          fun whole => one (unique whole)
        match found with
        | [] => simp [none]
        | [chosen] => exact absurd ⟨chosen, rfl⟩ one
        | first :: second :: rest => simp [none]
  · rw [if_pos (by
      rw [not_and_or] at usable
      rcases usable with far | invalid
      · simp [not_lt.mp far]
      · simp [invalid])]
    exact ⟨⟨fun some => absurd rfl some, fun held => absurd ⟨held.1, held.2.1⟩ usable⟩,
      fun some => absurd rfl some⟩

end Owners

end NdtSlam
