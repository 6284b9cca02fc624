import Mathlib.Data.Prod.Lex
import NdtSlam.Foundation.KeyedSort
import NdtSlam.Identity.PhysicalGrouping

/-! The physical groups are a partition that does not depend on the order of the inputs. -/

namespace NdtSlam.PhysicalGrouping

/-! ### The canonical order -/

abbrev CanonicalKey : Type := List Nat ×ₗ ℚ ×ₗ ℚ ×ₗ ℚ ×ₗ ℚ ×ₗ ℚ ×ₗ ℚ ×ₗ ℚ ×ₗ ℕ

def canonicalKey (candidate : CargoPhysicalCandidateObservation) : CanonicalKey :=
  toLex (candidate.memberComponentIds, toLex (candidate.center.x.value,
    toLex (candidate.center.y.value, toLex (candidate.center.z.value,
    toLex (candidate.size.x.value, toLex (candidate.size.y.value,
    toLex (candidate.size.z.value, toLex (candidate.yawRad.value, candidate.candidateId))))))))

theorem lexicographicLess_cons {Key Rest : Type} [LinearOrder Key] [LinearOrder Rest]
    {lhs rhs : Key} {lhsRest rhsRest : Rest} {keys : List (Bool × Bool)} {less greater : Bool}
    (lower : less = true ↔ lhs < rhs) (upper : greater = true ↔ rhs < lhs)
    (rest : lexicographicLess keys = true ↔ lhsRest < rhsRest) :
    lexicographicLess ((less, greater) :: keys) = true ↔
      toLex (lhs, lhsRest) < toLex (rhs, rhsRest) := by
  rw [Prod.Lex.toLex_lt_toLex, lexicographicLess]
  rcases lt_trichotomy lhs rhs with below | rfl | above
  · simp [lower.mpr below, below]
  · have no : less = false := Bool.eq_false_iff.mpr fun yes => lt_irrefl _ (lower.mp yes)
    have no' : greater = false := Bool.eq_false_iff.mpr fun yes => lt_irrefl _ (upper.mp yes)
    simp [no, no', rest]
  · have no : less = false :=
      Bool.eq_false_iff.mpr fun yes => lt_asymm above (lower.mp yes)
    simp [no, upper.mpr above, not_lt_of_gt above, ne_of_gt above]

theorem lt_iff_value {a b : Scalar} (first : a.isFinite = true) (second : b.isFinite = true) :
    decide (a < b) = true ↔ a.value < b.value := by
  obtain ⟨a, rfl⟩ := Scalar.isFinite_iff.1 first
  obtain ⟨b, rfl⟩ := Scalar.isFinite_iff.1 second
  rw [decide_eq_true_iff]
  exact Scalar.fin_lt_fin

variable {candidates valid : List CargoPhysicalCandidateObservation}
  {lhs rhs : CargoPhysicalCandidateObservation}

theorem finite_keys (finite : finiteCandidate lhs = true) :
    ((lhs.center.x.isFinite = true ∧ lhs.center.y.isFinite = true) ∧
        lhs.center.z.isFinite = true) ∧
      ((lhs.size.x.isFinite = true ∧ lhs.size.y.isFinite = true) ∧
        lhs.size.z.isFinite = true) ∧ lhs.yawRad.isFinite = true := by
  simp only [finiteCandidate, Vec3.allFinite, Bool.and_eq_true] at finite
  tauto

theorem canonicalCandidateLess_iff (first : finiteCandidate lhs = true)
    (second : finiteCandidate rhs = true) :
    canonicalCandidateLess lhs rhs = true ↔ canonicalKey lhs < canonicalKey rhs := by
  obtain ⟨⟨⟨centerX, centerY⟩, centerZ⟩, ⟨⟨sizeX, sizeY⟩, sizeZ⟩, yaw⟩ := finite_keys first
  obtain ⟨⟨⟨centerX', centerY'⟩, centerZ'⟩, ⟨⟨sizeX', sizeY'⟩, sizeZ'⟩, yaw'⟩ := finite_keys second
  have scalar : ∀ {Rest : Type} [LinearOrder Rest] {a b : Scalar} {lhsRest rhsRest : Rest}
      {keys : List (Bool × Bool)}, a.isFinite = true → b.isFinite = true →
      (lexicographicLess keys = true ↔ lhsRest < rhsRest) →
      (lexicographicLess (compareKeys a b :: keys) = true ↔
        toLex (a.value, lhsRest) < toLex (b.value, rhsRest)) :=
    fun finite finite' rest => lexicographicLess_cons (lt_iff_value finite finite')
      (lt_iff_value finite' finite) rest
  unfold canonicalCandidateLess canonicalKey
  refine lexicographicLess_cons decide_eq_true_iff decide_eq_true_iff ?_
  refine scalar centerX centerX' (scalar centerY centerY' (scalar centerZ centerZ' ?_))
  refine scalar sizeX sizeX' (scalar sizeY sizeY' (scalar sizeZ sizeZ' (scalar yaw yaw' ?_)))
  simp [compareKeys, lexicographicLess]

theorem canonical_follows (finite : ∀ candidate ∈ candidates, finiteCandidate candidate = true) :
    Follows (fun lhs rhs => canonicalCandidateLess rhs lhs = false) canonicalKey candidates := by
  intro lhs first rhs second
  rw [← not_lt, ← canonicalCandidateLess_iff (finite rhs second) (finite lhs first),
    Bool.not_eq_true]

theorem canonicalKey_injective
    (distinct : candidates.Pairwise fun lhs rhs => lhs.candidateId ≠ rhs.candidateId) :
    ∀ lhs ∈ candidates, ∀ rhs ∈ candidates, canonicalKey lhs = canonicalKey rhs → lhs = rhs := by
  intro lhs first rhs second same
  have ids : lhs.candidateId = rhs.candidateId := by
    have keys := same
    simp only [canonicalKey, EmbeddingLike.apply_eq_iff_eq, Prod.mk.injEq] at keys
    exact keys.2.2.2.2.2.2.2.2
  have symmetric : Std.Symm fun lhs rhs : CargoPhysicalCandidateObservation =>
      lhs.candidateId ≠ rhs.candidateId := ⟨fun _ _ apart => apart.symm⟩
  by_contra differ
  exact distinct.forall first second differ ids

/-! ### The classes -/

def Sharing (lhs rhs : CargoPhysicalCandidateObservation) : Prop :=
  ∃ component ∈ lhs.memberComponentIds, component ∈ rhs.memberComponentIds

def Connected (valid : List CargoPhysicalCandidateObservation) :
    CargoPhysicalCandidateObservation → CargoPhysicalCandidateObservation → Prop :=
  Relation.EqvGen fun lhs rhs => lhs ∈ valid ∧ rhs ∈ valid ∧ Sharing lhs rhs

theorem overlaps_iff :
    overlaps lhs.memberComponentIds rhs.memberComponentIds = true ↔ Sharing lhs rhs := by
  unfold overlaps common Sharing
  rw [Bool.not_eq_true', List.isEmpty_eq_false_iff_exists_mem]
  simp

variable {parent : Fin valid.length → Fin valid.length}

theorem root_found (rooted : UnionFind.Rooted parent) (index : Fin valid.length) :
    UnionFind.Found parent index (root valid parent index) :=
  UnionFind.found_byRecursion (by simp) rooted index

theorem join_represents {joined : Fin valid.length → Fin valid.length → Prop}
    (pair : Fin valid.length × Fin valid.length) (represents : UnionFind.Represents joined parent) :
    UnionFind.Represents (UnionFind.Joining joined pair.1 pair.2) (join valid parent pair) := by
  have first := root_found represents.rooted pair.1
  exact (represents.unite first (root_found (first.rooted represents.rooted) pair.2)).2

abbrev Overlapping (valid : List CargoPhysicalCandidateObservation)
    (first second : Fin valid.length) : Prop :=
  overlaps (valid.get first).memberComponentIds (valid.get second).memberComponentIds = true

theorem joinedParents_represents :
    UnionFind.Represents (Overlapping valid) (joinedParents valid) := by
  refine UnionFind.represents_orderedPairs (fun first second near => ?_) ?_
  · exact overlaps_iff.2 ((overlaps_iff.1 near).imp fun _ shared => shared.symm)
  · exact UnionFind.represents_foldl (fun parent joined pair => join_represents pair)
      _ UnionFind.represents_id

theorem connected_iff (nodup : valid.Nodup) (first second : Fin valid.length) :
    Connected valid (valid.get first) (valid.get second) ↔
      Relation.EqvGen (Overlapping valid) first second := by
  constructor
  · intro connected
    have inside : ∀ {lhs rhs}, Connected valid lhs rhs → lhs ∈ valid → rhs ∈ valid := by
      intro lhs rhs connected member
      rcases UnionFind.eqvGen_inside (fun _ _ near => ⟨near.1, near.2.1⟩) connected with rfl | both
      · exact member
      · exact both.2
    have placed : ∀ lhs rhs, Connected valid lhs rhs → ∀ first second : Fin valid.length,
        valid.get first = lhs → valid.get second = rhs →
          Relation.EqvGen (Overlapping valid) first second := by
      intro lhs rhs connected
      induction connected with
      | rel lhs rhs near =>
        rintro first second rfl rfl
        exact .rel _ _ (overlaps_iff.2 near.2.2)
      | refl lhs =>
        rintro first second rfl equal
        obtain rfl : second = first := Fin.ext (nodup.getElem_inj_iff.mp equal)
        exact .refl _
      | symm lhs rhs _ ih =>
        rintro first second rfl rfl
        exact (ih second first rfl rfl).symm
      | trans lhs middle rhs near _ ih ih' =>
        rintro first second rfl rfl
        -- What lies between two hypotheses of the list is in the list as well.
        obtain ⟨place, less, rfl⟩ := List.mem_iff_getElem.mp (inside near (List.getElem_mem _))
        exact (ih first ⟨place, less⟩ rfl rfl).trans _ _ _ (ih' ⟨place, less⟩ second rfl rfl)
    exact placed _ _ connected first second rfl rfl
  · intro same
    induction same with
    | rel first second near =>
      exact .rel _ _ ⟨List.getElem_mem _, List.getElem_mem _, overlaps_iff.1 near⟩
    | refl place => exact .refl _
    | symm first second _ ih => exact ih.symm
    | trans first second third _ _ ih ih' => exact ih.trans _ _ _ ih'

theorem hypothesisGroups_listsClasses (nodup : valid.Nodup) :
    UnionFind.ListsClasses (Connected valid) valid (hypothesisGroups valid) := by
  obtain ⟨lists, classes, same⟩ := UnionFind.collect_listsClasses valid.get
    (fun parent rooted node => root_found rooted node) (@joinedParents_represents valid)
    (List.finRange valid.length)
  have mapped := classes.map (List.nodup_iff_injective_get.mp nodup) (connected_iff nodup)
  have whole : (List.finRange valid.length).map valid.get = valid :=
    List.map_getElem_finRange valid
  rw [whole, ← same] at mapped
  exact mapped

/-! ### The points of the components -/

variable (components : List CargoPhysicalComponentObservation)

def pointsOfComponent (id : Nat) : List Vec3 :=
  match components.find? (·.componentId == id) with
  | some component => component.pointsBase
  | none => []

theorem componentPoints_getElem? (id : Nat) : (componentPoints components)[id]?
      = (components.find? (·.componentId == id)).map (·.pointsBase) := by
  have fold : ∀ points : Std.ExtTreeMap Nat (List Vec3),
      (components.foldl (fun points component =>
        points.insertIfNew component.componentId component.pointsBase) points)[id]?
      = points[id]?.or ((components.find? (·.componentId == id)).map (·.pointsBase)) := by
    induction components with
    | nil => simp
    | cons component rest ih =>
      intro points
      rw [List.foldl_cons, ih, Std.ExtTreeMap.getElem?_insertIfNew, List.find?_cons]
      by_cases own : component.componentId = id
      · by_cases known : id ∈ points
        · rw [if_neg (by simp [own, known])]
          simp [own, Std.ExtTreeMap.getElem?_eq_some_getElem known]
        · rw [if_pos ⟨by simp [own], by rwa [own]⟩]
          simp [own, Std.ExtTreeMap.getElem?_eq_none known]
      · have skipped : (component.componentId == id) = false := by simpa using own
        rw [if_neg (by simp [own]), skipped]
  unfold componentPoints
  rw [fold]
  simp

variable {components components' : List CargoPhysicalComponentObservation}

theorem componentPoints_perm
    (distinct : components.Pairwise fun lhs rhs => lhs.componentId ≠ rhs.componentId)
    (perm : components.Perm components') :
    componentPoints components = componentPoints components' := by
  refine Std.ExtTreeMap.ext_getElem? fun id => ?_
  rw [componentPoints_getElem?, componentPoints_getElem?]
  congr 1
  have symmetric : Std.Symm fun lhs rhs : CargoPhysicalComponentObservation =>
      lhs.componentId ≠ rhs.componentId := ⟨fun _ _ apart => apart.symm⟩
  -- An id is found in both lists or in none, and at most one component has it.
  cases found : components.find? (·.componentId == id) with
  | none =>
    refine (List.find?_eq_none.mpr fun component member => ?_).symm
    exact List.find?_eq_none.mp found component (perm.mem_iff.mpr member)
  | some component =>
    have member := List.mem_of_find?_eq_some found
    have own : component.componentId = id := by simpa using List.find?_some found
    cases found' : components'.find? (·.componentId == id) with
    | none =>
      have absent := List.find?_eq_none.mp found' component (perm.mem_iff.mp member)
      exact absurd own (by simpa using absent)
    | some component' =>
      have member' := perm.mem_iff.mpr (List.mem_of_find?_eq_some found')
      have own' : component'.componentId = id := by simpa using List.find?_some found'
      by_contra differ
      have apart : component ≠ component' := fun same => differ (congrArg some same)
      exact distinct.forall member member' apart (own.trans own'.symm)

/-! ### The groups -/

theorem mem_canonicalMembers {members : List Nat} {id : Nat} :
    id ∈ canonicalMembers members ↔ id ∈ members := by
  unfold canonicalMembers
  rw [List.mem_dedup, List.mem_insertionSort]

theorem canonicalMembers_ascending (members : List Nat) :
    (canonicalMembers members).Pairwise (· < ·) := by
  unfold canonicalMembers
  have sorted := (List.pairwise_insertionSort (· ≤ ·) members).sublist (List.dedup_sublist _)
  exact sorted.imp₂ (fun _ _ low differ => lt_of_le_of_ne low differ) (List.nodup_dedup _)

theorem canonicalSort_perm (candidates : List CargoPhysicalCandidateObservation) :
    (canonicalSort candidates).Perm candidates := List.perm_insertionSort _ _

theorem numberGroups_perm {View : Type} {view : CargoPhysicalGroupObservation → View}
    (same : ∀ group id, view { group with frameGroupId := id } = view group)
    (groups : List CargoPhysicalGroupObservation) :
    ((numberGroups groups).map view).Perm (groups.map view) := by
  have numbered : (numberGroups groups).map view
      = (groups.insertionSort fun lhs rhs =>
          ¬rhs.memberComponentIds < lhs.memberComponentIds).map view := by
    unfold numberGroups
    refine List.ext_getElem (by simp) fun index less less' => ?_
    simp only [List.getElem_map, List.getElem_mapIdx, same]
  rw [numbered]
  exact (List.perm_insertionSort _ groups).map view

theorem numberGroups_ordered (groups : List CargoPhysicalGroupObservation) :
    (numberGroups groups).Pairwise fun first second =>
      first.memberComponentIds ≤ second.memberComponentIds := by
  have follows : Follows (fun lhs rhs : CargoPhysicalGroupObservation =>
      ¬rhs.memberComponentIds < lhs.memberComponentIds) (·.memberComponentIds) groups :=
    fun lhs _ rhs _ => not_lt
  rw [List.pairwise_iff_getElem]
  intro first second less less' before
  simp only [numberGroups, List.length_mapIdx] at less less'
  simp only [numberGroups, List.getElem_mapIdx]
  exact List.pairwise_iff_getElem.mp follows.pairwise first second less less' before

variable {group : CargoPhysicalGroupObservation}

theorem of_mem_numberGroups {groups : List CargoPhysicalGroupObservation}
    (member : group ∈ numberGroups groups) :
    ∃ source ∈ groups, ∃ id, group = { source with frameGroupId := id } := by
  unfold numberGroups at member
  obtain ⟨index, less, rfl⟩ := List.mem_iff_getElem.mp member
  rw [List.getElem_mapIdx]
  refine ⟨_, ?_, _, rfl⟩
  exact List.mem_insertionSort _ |>.mp (List.getElem_mem _)

section Groups

variable [IdentityMath] {context : GroupingContext} {points : Std.ExtTreeMap Nat (List Vec3)}
  {entry : List CargoPhysicalCandidateObservation}

theorem mem_buildGroup {id : Nat} : id ∈ (buildGroup context points entry).memberComponentIds ↔
    ∃ candidate ∈ entry, id ∈ candidate.memberComponentIds := by
  unfold buildGroup
  rw [mem_canonicalMembers, List.mem_flatMap]
  simp [(canonicalSort_perm entry).mem_iff]

structure GroupOf (components : List CargoPhysicalComponentObservation)
    (entry : List CargoPhysicalCandidateObservation) (group : CargoPhysicalGroupObservation) :
    Prop where
  hypotheses : group.hypotheses.Perm entry
  members : ∀ id, id ∈ group.memberComponentIds ↔
    ∃ candidate ∈ entry, id ∈ candidate.memberComponentIds
  ascending : group.memberComponentIds.Pairwise (· < ·)
  points : group.unionPointsBase
    = group.memberComponentIds.flatMap (pointsOfComponent components)

theorem buildGroup_groupOf (components : List CargoPhysicalComponentObservation) (id : Nat) :
    GroupOf components entry
      { buildGroup context (componentPoints components) entry with frameGroupId := id } := by
  refine ⟨canonicalSort_perm entry, fun other => ?_, canonicalMembers_ascending _, ?_⟩
  · exact @mem_buildGroup _ context (componentPoints components) entry other
  · refine List.flatMap_congr fun id _ => ?_
    rw [componentPoints_getElem?, pointsOfComponent]
    cases components.find? (·.componentId == id) <;> rfl

end Groups

/-! ### The partition -/

/-- The groups are the classes of the finite hypotheses that share components. -/
structure CanonicalPartition (candidates : List CargoPhysicalCandidateObservation)
    (components : List CargoPhysicalComponentObservation)
    (groups : List CargoPhysicalGroupObservation) : Prop where
  among : ∀ group ∈ groups, ∀ candidate ∈ group.hypotheses,
    candidate ∈ finiteCandidates candidates
  classes : ∀ group ∈ groups, ∀ candidate ∈ group.hypotheses,
    ∀ other ∈ finiteCandidates candidates, other ∈ group.hypotheses ↔
      Connected (finiteCandidates candidates) candidate other
  nonempty : ∀ group ∈ groups, group.hypotheses ≠ []
  once : ∀ group ∈ groups, group.hypotheses.Nodup
  complete : ∀ candidate ∈ finiteCandidates candidates,
    ∃ group ∈ groups, candidate ∈ group.hypotheses
  members : ∀ group ∈ groups, ∀ id, id ∈ group.memberComponentIds ↔
    ∃ candidate ∈ group.hypotheses, id ∈ candidate.memberComponentIds
  ascending : ∀ group ∈ groups, group.memberComponentIds.Pairwise (· < ·)
  disjoint : groups.Pairwise fun first second =>
    first.memberComponentIds.Disjoint second.memberComponentIds
  points : ∀ group ∈ groups, group.unionPointsBase
    = group.memberComponentIds.flatMap (pointsOfComponent components)
  numbered : ∀ index (inside : index < groups.length),
    groups[index].frameGroupId = index + 1
  ordered : groups.Pairwise fun first second =>
    first.memberComponentIds < second.memberComponentIds

theorem finite_of_mem (member : lhs ∈ finiteCandidates candidates) :
    finiteCandidate lhs = true := (List.mem_filter.mp member).2

theorem finiteCandidate_members (finite : finiteCandidate lhs = true) :
    lhs.memberComponentIds ≠ [] := by
  simp only [finiteCandidate, Bool.and_eq_true] at finite
  simpa using finite.1.2

theorem finiteCandidates_distinct (distinct : (candidates.map (·.candidateId)).Nodup) :
    (finiteCandidates candidates).Pairwise fun lhs rhs => lhs.candidateId ≠ rhs.candidateId := by
  unfold finiteCandidates
  refine List.Pairwise.sublist List.filter_sublist ?_
  rw [List.pairwise_map]
  exact List.pairwise_map.mp distinct

theorem connected_perm {valid' : List CargoPhysicalCandidateObservation}
    (perm : valid.Perm valid') : Connected valid = Connected valid' := by
  unfold Connected
  congr 1
  funext lhs rhs
  rw [perm.mem_iff, perm.mem_iff]

variable (candidates : List CargoPhysicalCandidateObservation)

def frameClasses : List (List CargoPhysicalCandidateObservation) :=
  hypothesisGroups (canonicalSort (finiteCandidates candidates))

theorem frameClasses_listsClasses (distinct : (candidates.map (·.candidateId)).Nodup) :
    UnionFind.ListsClasses (Connected (finiteCandidates candidates))
      (canonicalSort (finiteCandidates candidates)) (frameClasses candidates) := by
  have apart := finiteCandidates_distinct distinct
  have perm := canonicalSort_perm (finiteCandidates candidates)
  have nodup : (canonicalSort (finiteCandidates candidates)).Nodup :=
    perm.nodup_iff.mpr (apart.imp fun differ same => differ (congrArg _ same))
  have classes := hypothesisGroups_listsClasses nodup
  rwa [connected_perm perm] at classes

section Frames

variable [IdentityMath] (context : GroupingContext)
  (candidates : List CargoPhysicalCandidateObservation)
  (components : List CargoPhysicalComponentObservation)

theorem group_source (member : group ∈ groupCargoPhysicalCandidates context candidates components) :
    ∃ entry ∈ frameClasses candidates, GroupOf components entry group := by
  obtain ⟨_, built, id, rfl⟩ := of_mem_numberGroups member
  obtain ⟨entry, inside, rfl⟩ := List.mem_map.mp built
  exact ⟨entry, inside, buildGroup_groupOf components id⟩

theorem class_group {entry : List CargoPhysicalCandidateObservation}
    (inside : entry ∈ frameClasses candidates) :
    ∃ group ∈ groupCargoPhysicalCandidates context candidates components,
      group.hypotheses.Perm entry := by
  have numbered := @numberGroups_perm _ (·.hypotheses) (fun _ _ => rfl)
    ((frameClasses candidates).map (buildGroup context (componentPoints components)))
  have listed : canonicalSort entry ∈ ((frameClasses candidates).map
      (buildGroup context (componentPoints components))).map (·.hypotheses) :=
    List.mem_map.mpr ⟨_, List.mem_map.mpr ⟨entry, inside, rfl⟩, rfl⟩
  obtain ⟨group, member, same⟩ := List.mem_map.mp (numbered.mem_iff.mpr listed)
  exact ⟨group, member, same ▸ canonicalSort_perm entry⟩

theorem groups_disjoint (distinct : (candidates.map (·.candidateId)).Nodup) :
    (groupCargoPhysicalCandidates context candidates components).Pairwise fun first second =>
      first.memberComponentIds.Disjoint second.memberComponentIds := by
  have classes := frameClasses_listsClasses candidates distinct
  have among : ∀ {entry}, entry ∈ frameClasses candidates → ∀ candidate ∈ entry,
      candidate ∈ finiteCandidates candidates := fun inside candidate member =>
    (canonicalSort_perm _).mem_iff.mp ((classes.sublist _ inside).subset member)
  have numbered := @numberGroups_perm _ (·.memberComponentIds) (fun _ _ => rfl)
    ((frameClasses candidates).map (buildGroup context (componentPoints components)))
  refine List.pairwise_map.mp ((numbered.pairwise_iff fun apart => apart.symm).mpr ?_)
  rw [List.pairwise_map, List.pairwise_map]
  refine classes.disjoint.imp_of_mem ?_
  intro first second inside inside' apart id left right
  -- Hypotheses with a common component are in one class.
  obtain ⟨candidate, here, holds⟩ := mem_buildGroup.1 left
  obtain ⟨other, there, holds'⟩ := mem_buildGroup.1 right
  have member := among inside' other there
  have connected : Connected (finiteCandidates candidates) candidate other :=
    .rel _ _ ⟨among inside candidate here, member, id, holds, holds'⟩
  have joined : other ∈ first := (classes.members first inside candidate here other
    ((canonicalSort_perm _).mem_iff.mpr member)).mpr connected
  exact apart joined there

theorem grouping_partition (distinct : (candidates.map (·.candidateId)).Nodup) :
    CanonicalPartition candidates components
      (groupCargoPhysicalCandidates context candidates components) := by
  have classes := frameClasses_listsClasses candidates distinct
  have sorted : ∀ {candidate}, candidate ∈ canonicalSort (finiteCandidates candidates) ↔
      candidate ∈ finiteCandidates candidates := (canonicalSort_perm _).mem_iff
  have among : ∀ {entry}, entry ∈ frameClasses candidates → ∀ candidate ∈ entry,
      candidate ∈ finiteCandidates candidates := fun inside candidate member =>
    sorted.mp ((classes.sublist _ inside).subset member)
  have disjoint := groups_disjoint context candidates components distinct
  refine ⟨?_, ?_, ?_, ?_, ?_, ?_, ?_, disjoint, ?_, ?_, ?_⟩
  · intro group member candidate here
    obtain ⟨entry, inside, own⟩ := group_source context candidates components member
    exact among inside candidate (own.hypotheses.mem_iff.mp here)
  · intro group member candidate here other there
    obtain ⟨entry, inside, own⟩ := group_source context candidates components member
    rw [own.hypotheses.mem_iff]
    exact classes.members entry inside candidate (own.hypotheses.mem_iff.mp here) other
      (sorted.mpr there)
  · intro group member
    obtain ⟨entry, inside, own⟩ := group_source context candidates components member
    intro none
    exact classes.nonempty entry inside (none ▸ own.hypotheses).nil_eq.symm
  · intro group member
    obtain ⟨entry, inside, own⟩ := group_source context candidates components member
    refine own.hypotheses.nodup_iff.mpr (List.Nodup.sublist (classes.sublist entry inside) ?_)
    refine (canonicalSort_perm _).nodup_iff.mpr ?_
    exact (finiteCandidates_distinct distinct).imp fun differ same => differ (congrArg _ same)
  · intro candidate member
    obtain ⟨entry, inside, here⟩ := classes.complete candidate (sorted.mpr member)
    obtain ⟨group, built, same⟩ := class_group context candidates components inside
    exact ⟨group, built, same.mem_iff.mpr here⟩
  · intro group member id
    obtain ⟨entry, inside, own⟩ := group_source context candidates components member
    rw [own.members]
    simp only [own.hypotheses.mem_iff]
  · intro group member
    obtain ⟨entry, inside, own⟩ := group_source context candidates components member
    exact own.ascending
  · intro group member
    obtain ⟨entry, inside, own⟩ := group_source context candidates components member
    exact own.points
  · intro index inside
    simp only [groupCargoPhysicalCandidates, groupSortedCandidates, numberGroups,
      List.getElem_mapIdx]
  · -- Lists that are in order and have no common element differ, as none of them is empty.
    have filled : ∀ group ∈ groupCargoPhysicalCandidates context candidates components,
        group.memberComponentIds ≠ [] := by
      intro group member
      obtain ⟨entry, inside, own⟩ := group_source context candidates components member
      obtain ⟨candidate, here⟩ := List.exists_mem_of_ne_nil _ (classes.nonempty entry inside)
      obtain ⟨component, holds⟩ := List.exists_mem_of_ne_nil _
        (finiteCandidate_members (finite_of_mem (among inside candidate here)))
      exact List.ne_nil_of_mem ((own.members component).mpr ⟨candidate, here, holds⟩)
    refine ((numberGroups_ordered _).and disjoint).imp_of_mem ?_
    rintro first second inside - ⟨low, apart⟩
    refine lt_of_le_of_ne low fun same => ?_
    obtain ⟨component, holds⟩ := List.exists_mem_of_ne_nil _ (filled first inside)
    exact apart holds (same ▸ holds)

end Frames

theorem grouping_perm [IdentityMath] (context : GroupingContext)
    {candidates candidates' : List CargoPhysicalCandidateObservation}
    (distinct : (candidates.map (·.candidateId)).Nodup)
    (distinct' : (components.map (·.componentId)).Nodup) (perm : candidates.Perm candidates')
    (perm' : components.Perm components') :
    groupCargoPhysicalCandidates context candidates components
      = groupCargoPhysicalCandidates context candidates' components' := by
  have finite : (finiteCandidates candidates).Perm (finiteCandidates candidates') :=
    (perm.map canonicalCandidate).filter _
  have sorted : canonicalSort (finiteCandidates candidates)
      = canonicalSort (finiteCandidates candidates') :=
    (canonical_follows fun _ => finite_of_mem).sort_perm
      (canonicalKey_injective (finiteCandidates_distinct distinct)) finite
  unfold groupCargoPhysicalCandidates
  rw [sorted, componentPoints_perm (List.pairwise_map.mp distinct') perm']

/-- Physical grouping is the canonical partition. -/
theorem grouping_canonical [IdentityMath] (context : GroupingContext)
    (candidates : List CargoPhysicalCandidateObservation)
    (components : List CargoPhysicalComponentObservation)
    (distinct : (candidates.map (·.candidateId)).Nodup)
    (distinct' : (components.map (·.componentId)).Nodup) :
    CanonicalPartition candidates components
        (groupCargoPhysicalCandidates context candidates components) ∧
      ∀ candidates' components', candidates.Perm candidates' → components.Perm components' →
        groupCargoPhysicalCandidates context candidates' components'
          = groupCargoPhysicalCandidates context candidates components :=
  ⟨grouping_partition context candidates components distinct,
    fun _ _ perm perm' => (grouping_perm context distinct distinct' perm perm').symm⟩

def unitHypothesis (id : Nat) (members : List Nat) : CargoPhysicalCandidateObservation where
  candidateId := id
  memberComponentIds := members
  stampSec := 1
  size := ⟨1, 1, 1⟩
  z95 := 1
  pointSupport := 1

theorem three_hypotheses_canonical :
    CanonicalPartition [unitHypothesis 1 [1, 2], unitHypothesis 2 [3], unitHypothesis 3 [2]] []
        (@groupCargoPhysicalCandidates axisMath {}
          [unitHypothesis 1 [1, 2], unitHypothesis 2 [3], unitHypothesis 3 [2]] []) ∧
      ∀ candidates' components',
        [unitHypothesis 1 [1, 2], unitHypothesis 2 [3], unitHypothesis 3 [2]].Perm candidates' →
        [].Perm components' →
        @groupCargoPhysicalCandidates axisMath {} candidates' components'
          = @groupCargoPhysicalCandidates axisMath {}
            [unitHypothesis 1 [1, 2], unitHypothesis 2 [3], unitHypothesis 3 [2]] [] :=
  @grouping_canonical axisMath {} _ _ (by decide) (by decide)

end NdtSlam.PhysicalGrouping
