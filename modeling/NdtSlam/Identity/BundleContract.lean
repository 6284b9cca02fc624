import NdtSlam.Foundation.Extrema
import NdtSlam.Identity.ComponentBundles

/-! The contract of a whole bundle, and the chains of pieces that keep it. -/

namespace NdtSlam.ComponentBundles

variable (components : List CargoPhysicalComponentObservation)
  (config : CargoPhysicalBundleConfig)

def Chained : Fin components.length → Fin components.length → Prop :=
  Relation.EqvGen fun a b => (geoms components a).canBundle (geoms components b) config = true

def extent (low high : ComponentGeom → Scalar) (members : List (Fin components.length)) : Scalar :=
  (members.map fun place => high (geoms components place)).foldl Scalar.maxOf .negInf -
    (members.map fun place => low (geoms components place)).foldl Scalar.minOf .posInf

def extentX : List (Fin components.length) → Scalar :=
  extent components ComponentGeom.robustX05 ComponentGeom.robustX95

def extentY : List (Fin components.length) → Scalar :=
  extent components ComponentGeom.robustY05 ComponentGeom.robustY95

structure KeepsContract (members : List (Fin components.length))
    (bundle : CargoPhysicalBundleObservation) : Prop where
  longSide : .maxOf (extentX components members) (extentY components members)
    ≤ config.maximumCombinedLongSideM
  shortSide : .minOf (extentX components members) (extentY components members)
    ≤ config.maximumCombinedShortSideM
  internalGap : bundle.internalVerticalGapM ≤ config.maximumInternalVerticalGapM
  gaps : members.Pairwise fun a b => (geoms components a).verticalGap (geoms components b)
    ≤ config.maximumInternalVerticalGapM

structure BundlesKeepContract : Prop where
  contract : ∀ entry ∈ memberBundles components config,
    KeepsContract components config entry.1 entry.2
  disjoint : (memberBundles components config).Pairwise fun first second =>
    first.1.Disjoint second.1

def NarrowAlong (union : ComponentGeom → ComponentGeom → Scalar)
    (place : Fin components.length) : Prop :=
  ∀ a b, a ≠ b → Chained components config place a → Chained components config place b →
    union (geoms components a) (geoms components b) ≤ config.maximumCombinedShortSideM

/-- The places of each chain fit together, also those that are no neighbours in it. -/
structure ChainsFit : Prop where
  pairs : ∀ a b, a ≠ b → Chained components config a b →
    .maxOf ((geoms components a).unionX (geoms components b))
        ((geoms components a).unionY (geoms components b))
      ≤ config.maximumCombinedLongSideM ∧
    (geoms components a).verticalGap (geoms components b) ≤ config.maximumInternalVerticalGapM
  narrow : ∀ a b, a ≠ b → Chained components config a b →
    NarrowAlong components config ComponentGeom.unionX a ∨
    NarrowAlong components config ComponentGeom.unionY a

variable {components config}

/-! ### Boxes -/

structure Boxed (geom : ComponentGeom) : Prop where
  x05 : geom.robustX05.isFinite = true
  x95 : geom.robustX95.isFinite = true
  y05 : geom.robustY05.isFinite = true
  y95 : geom.robustY95.isFinite = true
  minZ : geom.minZ.isFinite = true
  maxZ : geom.maxZ.isFinite = true

theorem quantile_isFinite {values : List Scalar} {probability : Scalar}
    (finite : ∀ value ∈ values, value.isFinite = true) :
    (quantile values probability).isFinite = true := by
  have entry : ∀ place, ((values.insertionSort (· ≤ ·)).getD place 0).isFinite = true := by
    intro place
    rw [List.getD_eq_getElem?_getD]
    cases found : (values.insertionSort (· ≤ ·))[place]? with
    | none => rfl
    | some value => exact finite value (by simpa using List.mem_of_getElem? found)
  unfold quantile
  split_ifs with single
  · exact entry 0
  · exact Scalar.add_isFinite.2 ⟨entry _, Scalar.mul_isFinite rfl
      (Scalar.sub_isFinite.2 ⟨entry _, entry _⟩)⟩

theorem foldl_widen_footprint (points : List Vec3) (geom : ComponentGeom) :
    (points.foldl widen geom).valid = geom.valid := by
  induction points generalizing geom with
  | nil => rfl
  | cons point points ih => exact ih _

theorem componentGeom_boxed {points : List Vec3} (valid : (componentGeom points).valid = true) :
    Boxed (componentGeom points) := by
  unfold componentGeom at valid ⊢
  simp only at valid ⊢
  split_ifs at valid ⊢ with few
  · rw [foldl_widen_footprint] at valid
    exact absurd valid (by decide)
  · have coordinates : ∀ {axis : Vec3 → Scalar}, (∀ point, point.allFinite = true →
        (axis point).isFinite = true) → ∀ value ∈ (finitePoints points).map axis,
          value.isFinite = true := by
      intro axis finite value member
      obtain ⟨point, inside, rfl⟩ := List.mem_map.mp member
      exact finite point (List.mem_filter.mp inside).2
    have along : ∀ point : Vec3, point.allFinite = true →
        point.x.isFinite = true ∧ point.y.isFinite = true := by
      intro point finite
      simp only [Vec3.allFinite, Bool.and_eq_true] at finite
      exact finite.1
    simp only [Bool.and_eq_true] at valid
    exact ⟨quantile_isFinite (coordinates fun point finite => (along point finite).1),
      quantile_isFinite (coordinates fun point finite => (along point finite).1),
      quantile_isFinite (coordinates fun point finite => (along point finite).2),
      quantile_isFinite (coordinates fun point finite => (along point finite).2),
      valid.1.2, valid.2⟩

variable {a b : ComponentGeom}

theorem canBundle_valid (bundled : a.canBundle b config = true) :
    a.valid = true ∧ b.valid = true := by
  unfold ComponentGeom.canBundle at bundled
  by_contra invalid
  have refused : (!a.valid || !b.valid) = true := by
    cases valid : a.valid <;> cases valid' : b.valid <;> simp_all
  rw [if_pos refused] at bundled
  exact absurd bundled (by decide)

theorem canBundle_comm (first : Boxed a) (second : Boxed b) :
    a.canBundle b config = b.canBundle a config := by
  unfold ComponentGeom.canBundle ComponentGeom.unionX ComponentGeom.unionY
    ComponentGeom.verticalGap
  rw [Scalar.maxOf_comm first.x95 second.x95, Scalar.minOf_comm first.x05 second.x05,
    Scalar.maxOf_comm first.y95 second.y95, Scalar.minOf_comm first.y05 second.y05,
    Scalar.maxOf_comm first.x05 second.x05, Scalar.minOf_comm first.x95 second.x95,
    Scalar.maxOf_comm first.y05 second.y05, Scalar.minOf_comm first.y95 second.y95,
    Scalar.maxOf_comm first.minZ second.minZ, Scalar.minOf_comm first.maxZ second.maxZ,
    Bool.or_comm]

theorem verticalGap_isFinite (first : Boxed a) (second : Boxed b) :
    (a.verticalGap b).isFinite = true ∧ 0 ≤ a.verticalGap b := by
  have difference : (Scalar.maxOf a.minZ b.minZ - Scalar.minOf a.maxZ b.maxZ).isFinite = true :=
    Scalar.sub_isFinite.2 ⟨Scalar.maxOf_isFinite first.minZ second.minZ,
      Scalar.minOf_isFinite first.maxZ second.maxZ⟩
  have finite : (a.verticalGap b).isFinite = true := Scalar.maxOf_isFinite rfl difference
  exact ⟨finite, ((Scalar.maxOf_le_iff rfl difference).mp (Scalar.le_refl_of_finite finite)).1⟩

theorem union_isFinite (first : Boxed a) (second : Boxed b) :
    (a.unionX b).isFinite = true ∧ (a.unionY b).isFinite = true :=
  ⟨Scalar.sub_isFinite.2 ⟨Scalar.maxOf_isFinite first.x95 second.x95,
      Scalar.minOf_isFinite first.x05 second.x05⟩,
    Scalar.sub_isFinite.2 ⟨Scalar.maxOf_isFinite first.y95 second.y95,
      Scalar.minOf_isFinite first.y05 second.y05⟩⟩

theorem verticalGap_comm (first : Boxed a) (second : Boxed b) :
    a.verticalGap b = b.verticalGap a := by
  unfold ComponentGeom.verticalGap
  rw [Scalar.maxOf_comm first.minZ second.minZ, Scalar.minOf_comm first.maxZ second.maxZ]

/-! ### Several boxes -/

section Members

variable {members : List (Fin components.length)} {limit : Scalar}
  {low high : ComponentGeom → Scalar}

section

variable (lows : ∀ place ∈ members, (low (geoms components place)).isFinite = true)
include lows

theorem extent_le_iff (highs : ∀ place ∈ members, (high (geoms components place)).isFinite = true)
    (some : members ≠ []) :
    extent components low high members ≤ limit ↔ ∀ a ∈ members, ∀ b ∈ members,
      high (geoms components a) - low (geoms components b) ≤ limit := by
  obtain ⟨most, inside, equal, largest⟩ := @Scalar.foldl_maxOf
    (members.map fun place => high (geoms components place))
    (by simpa using highs) (by simpa using some)
  obtain ⟨least, inside', equal', smallest⟩ := @Scalar.foldl_minOf
    (members.map fun place => low (geoms components place))
    (by simpa using lows) (by simpa using some)
  obtain ⟨top, member, rfl⟩ := List.mem_map.mp inside
  obtain ⟨bottom, member', rfl⟩ := List.mem_map.mp inside'
  unfold extent
  rw [equal, equal']
  constructor
  · intro within a first b second
    refine Scalar.le_trans ?_ within
    exact Scalar.sub_le_sub (highs top member) (lows bottom member')
      (largest _ (List.mem_map_of_mem first)) (smallest _ (List.mem_map_of_mem second))
      (highs a first) (lows b second)
  · intro within
    exact within top member bottom member'

theorem extent_isFinite (highs : ∀ place ∈ members, (high (geoms components place)).isFinite = true)
    (some : members ≠ []) : (extent components low high members).isFinite = true := by
  obtain ⟨most, inside, equal, -⟩ := @Scalar.foldl_maxOf
    (members.map fun place => high (geoms components place))
    (by simpa using highs) (by simpa using some)
  obtain ⟨least, inside', equal', -⟩ := @Scalar.foldl_minOf
    (members.map fun place => low (geoms components place))
    (by simpa using lows) (by simpa using some)
  obtain ⟨top, member, rfl⟩ := List.mem_map.mp inside
  obtain ⟨bottom, member', rfl⟩ := List.mem_map.mp inside'
  unfold extent
  rw [equal, equal']
  exact Scalar.sub_isFinite.2 ⟨highs top member, lows bottom member'⟩

theorem extent_le_pairs (highs : ∀ place ∈ members, (high (geoms components place)).isFinite = true)
    (some : members ≠ []) (partner : ∀ a ∈ members, ∃ b ∈ members, a ≠ b) :
    extent components low high members ≤ limit ↔ ∀ a ∈ members, ∀ b ∈ members, a ≠ b →
      extent components low high [a, b] ≤ limit := by
  have pair : ∀ {a b}, a ∈ members → b ∈ members →
      (extent components low high [a, b] ≤ limit ↔ ∀ top ∈ [a, b], ∀ bottom ∈ [a, b],
        high (geoms components top) - low (geoms components bottom) ≤ limit) := by
    intro a b first second
    have two : ∀ place ∈ [a, b], place ∈ members := by
      intro place inside
      rcases List.mem_cons.mp inside with rfl | inside
      · exact first
      · exact List.mem_singleton.mp inside ▸ second
    exact extent_le_iff (fun place inside => lows place (two place inside))
      (fun place inside => highs place (two place inside)) (List.cons_ne_nil _ _)
  rw [extent_le_iff lows highs some]
  constructor
  · intro within a first b second _
    rw [pair first second]
    have two : ∀ place ∈ [a, b], place ∈ members := by simp [first, second]
    exact fun top inside bottom inside' => within top (two top inside) bottom (two bottom inside')
  · intro within a first b second
    by_cases same : a = b
    · -- The ends of one member are among those of a pair that it is in.
      obtain ⟨c, third, differ⟩ := partner a first
      exact (pair first third).mp (within a first c third differ) a (by simp) b (by simp [same])
    · exact (pair first second).mp (within a first b second same) a (by simp) b (by simp)

end

theorem extent_pair {a b : Fin components.length} (first : Boxed (geoms components a)) :
    extentX components [a, b] = (geoms components a).unionX (geoms components b) ∧
      extentY components [a, b] = (geoms components a).unionY (geoms components b) := by
  have most : ∀ {v : Scalar}, v.isFinite = true → Scalar.maxOf .negInf v = v := by
    intro v finite
    obtain ⟨v, rfl⟩ := Scalar.isFinite_iff.1 finite
    rfl
  have least : ∀ {v : Scalar}, v.isFinite = true → Scalar.minOf .posInf v = v := by
    intro v finite
    obtain ⟨v, rfl⟩ := Scalar.isFinite_iff.1 finite
    rfl
  simp only [extentX, extentY, extent, List.map_cons, List.map_nil, List.foldl_cons,
    List.foldl_nil, most first.x95, least first.x05, most first.y95, least first.y05,
    ComponentGeom.unionX, ComponentGeom.unionY, and_self]

theorem foldl_verticalGap {a : Fin components.length} (first : Boxed (geoms components a))
    (boxed : ∀ place ∈ members, Boxed (geoms components place)) {largest : Scalar}
    (finite : largest.isFinite = true) :
    (members.foldl (fun largest b => Scalar.maxOf largest
        ((geoms components a).verticalGap (geoms components b))) largest).isFinite = true ∧
      (members.foldl (fun largest b => Scalar.maxOf largest
          ((geoms components a).verticalGap (geoms components b))) largest ≤ limit ↔
        largest ≤ limit ∧ ∀ b ∈ members,
          (geoms components a).verticalGap (geoms components b) ≤ limit) := by
  induction members generalizing largest with
  | nil => exact ⟨finite, by simp⟩
  | cons b rest ih =>
    have gap := (verticalGap_isFinite first (boxed b List.mem_cons_self)).1
    obtain ⟨stays, within⟩ := ih (fun place inside => boxed place (List.mem_cons_of_mem _ inside))
      (Scalar.maxOf_isFinite finite gap)
    refine ⟨stays, within.trans ?_⟩
    rw [Scalar.maxOf_le_iff finite gap, List.forall_mem_cons, and_assoc]

theorem internalVerticalGap_le_iff (boxed : ∀ place ∈ members, Boxed (geoms components place))
    {largest : Scalar} (finite : largest.isFinite = true) :
    internalVerticalGap components members largest ≤ limit ↔ largest ≤ limit ∧
      members.Pairwise fun a b =>
        (geoms components a).verticalGap (geoms components b) ≤ limit := by
  induction members generalizing largest with
  | nil => simp [internalVerticalGap]
  | cons a rest ih =>
    have rests := fun place inside => boxed place (List.mem_cons_of_mem a inside)
    obtain ⟨stays, within⟩ := @foldl_verticalGap components rest limit a
      (boxed a List.mem_cons_self) rests largest finite
    unfold internalVerticalGap
    rw [ih rests stays, within, List.pairwise_cons, and_assoc]

end Members

/-! ### Chains -/

theorem boxed_of_canBundle {a b : Fin components.length}
    (bundled : (geoms components a).canBundle (geoms components b) config = true) :
    Boxed (geoms components a) ∧ Boxed (geoms components b) :=
  ⟨componentGeom_boxed (canBundle_valid bundled).1, componentGeom_boxed (canBundle_valid bundled).2⟩

theorem Chained.valid {a b : Fin components.length} (chained : Chained components config a b) :
    a = b ∨ (geoms components a).valid = true ∧ (geoms components b).valid = true :=
  UnionFind.eqvGen_inside (fun _ _ bundled => canBundle_valid bundled) chained

variable {parent : Fin components.length → Fin components.length}

theorem findRoot_found (rooted : UnionFind.Rooted parent) (node : Fin components.length) :
    UnionFind.Found parent node (findRoot components parent node) :=
  UnionFind.found_byLoops (by simp) rooted node

theorem joinPlaces_represents {joined : Fin components.length → Fin components.length → Prop}
    (pair : Fin components.length × Fin components.length)
    (represents : UnionFind.Represents joined parent) :
    UnionFind.Represents (UnionFind.Joining joined pair.1 pair.2)
      (joinPlaces components parent pair) := by
  have first := findRoot_found represents.rooted pair.1
  exact (represents.unite first (findRoot_found (first.rooted represents.rooted) pair.2)).1

theorem bundleParents_represents :
    UnionFind.Represents
      (fun a b => (geoms components a).canBundle (geoms components b) config = true)
      (bundleParents components config) := by
  refine UnionFind.represents_orderedPairs (fun a b bundled => ?_) ?_
  · obtain ⟨first, second⟩ := boxed_of_canBundle bundled
    rwa [canBundle_comm second first]
  · exact UnionFind.represents_foldl (fun parent joined pair => joinPlaces_represents pair)
      _ UnionFind.represents_id

theorem clusters_listsClasses :
    UnionFind.ListsClasses (Chained components config) (List.finRange components.length)
      (clusters components config) := by
  obtain ⟨lists, classes, same⟩ := UnionFind.collect_listsClasses id
    (fun parent rooted node => findRoot_found rooted node)
    (@bundleParents_represents components config)
    (List.finRange components.length)
  have own : clusters components config = lists := by
    unfold clusters
    rw [same]
    simp
  rwa [own]

variable {members : List (Fin components.length)}

theorem cluster_chained (cluster : members ∈ clusters components config)
    (several : ¬members.length < 2) :
    (∀ a ∈ members, ∀ b, b ∈ members ↔ Chained components config a b) ∧
      (∀ a ∈ members, ∃ b ∈ members, a ≠ b) ∧
      ∀ a ∈ members, (geoms components a).valid = true := by
  have classes := @clusters_listsClasses components config
  have chained : ∀ a ∈ members, ∀ b, b ∈ members ↔ Chained components config a b :=
    fun a first b => classes.members members cluster a first b (List.mem_finRange b)
  have nodup : members.Nodup :=
    (List.nodup_finRange components.length).sublist (classes.sublist members cluster)
  have partner : ∀ a ∈ members, ∃ b ∈ members, a ≠ b := by
    intro a first
    by_contra alone
    push Not at alone
    -- A list without repetitions whose members are all the same has one of them.
    have all : members = List.replicate members.length a :=
      List.eq_replicate_of_mem fun b second => (alone b second).symm
    rw [all, List.nodup_replicate] at nodup
    omega
  refine ⟨chained, partner, fun a first => ?_⟩
  obtain ⟨b, second, differ⟩ := partner a first
  rcases ((chained a first b).mp second).valid with same | ⟨valid, -⟩
  · exact absurd same differ
  · exact valid

theorem bundleOf_cluster (cluster : members ∈ clusters components config)
    (several : ¬members.length < 2) :
    ∃ bundle, bundleOf components members = some bundle ∧
      bundle.internalVerticalGapM = internalVerticalGap components members 0 := by
  obtain ⟨place, inside⟩ := List.exists_mem_of_length_pos (show 0 < members.length by omega)
  have valid := (cluster_chained cluster several).2.2 place inside
  have own : ¬(finitePoints components[place].pointsBase).length < 2 := by
    intro few
    unfold geoms componentGeom at valid
    simp only at valid
    rw [if_pos few, foldl_widen_footprint] at valid
    exact absurd valid (by decide)
  -- The points of the bundle have those of each member among them.
  have among : (finitePoints components[place].pointsBase).Sublist
      (finitePoints (members.flatMap fun place => components[place].pointsBase)) := by
    refine List.Sublist.filter _ ?_
    rw [List.flatMap_def]
    exact List.sublist_flatten_of_mem (List.mem_map_of_mem inside)
  have enough : ¬(finitePoints
      (members.flatMap fun place => components[place].pointsBase)).length < 2 := by
    have longer := among.length_le
    omega
  unfold bundleOf
  rw [if_neg several]
  simp only
  rw [if_neg enough]
  exact ⟨_, rfl, rfl⟩

/-! ### The contract -/

variable {bundle : CargoPhysicalBundleObservation}

theorem bundleOf_several (built : bundleOf components members = some bundle) :
    ¬members.length < 2 := by
  intro few
  unfold bundleOf at built
  rw [if_pos few] at built
  exact absurd built (by simp)

theorem mem_memberBundles (enabled : config.enabled = true)
    {entry : List (Fin components.length) × CargoPhysicalBundleObservation} :
    entry ∈ memberBundles components config ↔ entry.1 ∈ clusters components config ∧
      bundleOf components entry.1 = some entry.2 := by
  have listed : entry ∈ (clusters components config).filterMap (fun members =>
      (bundleOf components members).map (members, ·)) ↔ entry.1 ∈ clusters components config ∧
        bundleOf components entry.1 = some entry.2 := by
    rw [List.mem_filterMap]
    constructor
    · rintro ⟨members, cluster, made⟩
      obtain ⟨bundle, built, rfl⟩ := Option.map_eq_some_iff.mp made
      exact ⟨cluster, built⟩
    · rintro ⟨cluster, built⟩
      exact ⟨entry.1, cluster, by rw [built]; rfl⟩
  unfold memberBundles
  by_cases few : components.length < 2
  · -- No cluster has more places than there are components.
    rw [if_pos (by simp [few])]
    refine ⟨fun member => absurd member List.not_mem_nil, fun ⟨cluster, built⟩ => ?_⟩
    have several := bundleOf_several built
    have most := ((@clusters_listsClasses components config).sublist _ cluster).length_le
    rw [List.length_finRange] at most
    omega
  · rw [if_neg (by simp [enabled, few]), listed]

theorem keepsContract_iff (cluster : members ∈ clusters components config)
    (several : ¬members.length < 2)
    (gap : bundle.internalVerticalGapM = internalVerticalGap components members 0) :
    KeepsContract components config members bundle ↔
      (∀ a ∈ members, ∀ b ∈ members, a ≠ b →
        .maxOf ((geoms components a).unionX (geoms components b))
            ((geoms components a).unionY (geoms components b))
          ≤ config.maximumCombinedLongSideM ∧
        (geoms components a).verticalGap (geoms components b)
          ≤ config.maximumInternalVerticalGapM) ∧
      ∀ a ∈ members, NarrowAlong components config ComponentGeom.unionX a ∨
        NarrowAlong components config ComponentGeom.unionY a := by
  obtain ⟨chained, partner, valid⟩ := cluster_chained cluster several
  have boxed : ∀ a ∈ members, Boxed (geoms components a) :=
    fun a inside => componentGeom_boxed (valid a inside)
  have some : members ≠ [] := by
    rintro rfl
    exact several Nat.two_pos
  obtain ⟨someone, inside⟩ := List.exists_mem_of_ne_nil members some
  have alongX : ∀ {limit}, extentX components members ≤ limit ↔ ∀ a ∈ members, ∀ b ∈ members,
      a ≠ b → (geoms components a).unionX (geoms components b) ≤ limit := by
    intro limit
    rw [extentX, extent_le_pairs (fun a first => (boxed a first).x05)
      (fun a first => (boxed a first).x95) some partner]
    refine forall₂_congr fun a first => forall₂_congr fun b second => forall_congr' fun _ => ?_
    rw [← (extent_pair (boxed a first)).1, extentX]
  have alongY : ∀ {limit}, extentY components members ≤ limit ↔ ∀ a ∈ members, ∀ b ∈ members,
      a ≠ b → (geoms components a).unionY (geoms components b) ≤ limit := by
    intro limit
    rw [extentY, extent_le_pairs (fun a first => (boxed a first).y05)
      (fun a first => (boxed a first).y95) some partner]
    refine forall₂_congr fun a first => forall₂_congr fun b second => forall_congr' fun _ => ?_
    rw [← (extent_pair (boxed a first)).2, extentY]
  have finiteX : (extentX components members).isFinite = true :=
    extent_isFinite (fun a first => (boxed a first).x05) (fun a first => (boxed a first).x95) some
  have finiteY : (extentY components members).isFinite = true :=
    extent_isFinite (fun a first => (boxed a first).y05) (fun a first => (boxed a first).y95) some
  have union : ∀ a ∈ members, ∀ b ∈ members, ∀ {limit},
      .maxOf ((geoms components a).unionX (geoms components b))
        ((geoms components a).unionY (geoms components b)) ≤ limit ↔
      (geoms components a).unionX (geoms components b) ≤ limit ∧
        (geoms components a).unionY (geoms components b) ≤ limit := by
    intro a first b second limit
    obtain ⟨alongX, alongY⟩ := union_isFinite (boxed a first) (boxed b second)
    exact Scalar.maxOf_le_iff alongX alongY
  -- The members are those that a chain leads to from any of them.
  have narrow : ∀ {union : ComponentGeom → ComponentGeom → Scalar}, ∀ a ∈ members,
      (NarrowAlong components config union a ↔ ∀ b ∈ members, ∀ c ∈ members, b ≠ c →
        union (geoms components b) (geoms components c) ≤ config.maximumCombinedShortSideM) := by
    intro union a first
    unfold NarrowAlong
    constructor
    · intro within b second c third differ
      exact within b c differ ((chained a first b).mp second) ((chained a first c).mp third)
    · intro within b c differ second third
      exact within b ((chained a first b).mpr second) c ((chained a first c).mpr third) differ
  have pairwise : (members.Pairwise fun a b => (geoms components a).verticalGap
        (geoms components b) ≤ config.maximumInternalVerticalGapM) ↔
      ∀ a ∈ members, ∀ b ∈ members, a ≠ b → (geoms components a).verticalGap
        (geoms components b) ≤ config.maximumInternalVerticalGapM := by
    have nodup : members.Nodup := (List.nodup_finRange components.length).sublist
      ((@clusters_listsClasses components config).sublist members cluster)
    constructor
    · -- Among finite boxes the gap is the same from either side.
      intro gaps a first b second differ
      let Close := fun a b : Fin components.length => a ∈ members → b ∈ members →
        (geoms components a).verticalGap (geoms components b) ≤
          config.maximumInternalVerticalGapM
      have symmetric : Std.Symm Close := ⟨fun a b close second first => by
        rw [verticalGap_comm (boxed b second) (boxed a first)]
        exact close first second⟩
      have close : members.Pairwise Close := gaps.imp fun within _ _ => within
      exact close.forall first second differ first second
    · intro gaps
      exact nodup.imp_of_mem fun first second differ => gaps _ first _ second differ
  constructor
  · rintro ⟨longSide, shortSide, -, gaps⟩
    obtain ⟨longX, longY⟩ := (Scalar.maxOf_le_iff finiteX finiteY).mp longSide
    refine ⟨fun a first b second differ => ⟨?_, pairwise.mp gaps a first b second differ⟩, ?_⟩
    · exact (union a first b second).mpr
        ⟨alongX.mp longX a first b second differ, alongY.mp longY a first b second differ⟩
    · intro a first
      rcases (Scalar.minOf_le_iff finiteX finiteY).mp shortSide with short | short
      · exact .inl ((narrow a first).mpr (alongX.mp short))
      · exact .inr ((narrow a first).mpr (alongY.mp short))
  · rintro ⟨pairs, narrows⟩
    have gaps := fun a first b second differ => (pairs a first b second differ).2
    have longs := fun a first b second differ =>
      (union a first b second).mp (pairs a first b second differ).1
    refine ⟨?_, ?_, ?_, pairwise.mpr gaps⟩
    · rw [Scalar.maxOf_le_iff finiteX finiteY, alongX, alongY]
      exact ⟨fun a first b second differ => (longs a first b second differ).1,
        fun a first b second differ => (longs a first b second differ).2⟩
    · rw [Scalar.minOf_le_iff finiteX finiteY, alongX, alongY]
      exact (narrows someone inside).imp (narrow someone inside).mp (narrow someone inside).mp
    · -- There is a pair, and its gap is not negative.
      obtain ⟨other, inside', differ⟩ := partner someone inside
      have positive : (0 : Scalar) ≤ config.maximumInternalVerticalGapM :=
        Scalar.le_trans (verticalGap_isFinite (boxed someone inside) (boxed other inside')).2
          (gaps someone inside other inside' differ)
      rw [gap, internalVerticalGap_le_iff boxed rfl]
      exact ⟨positive, pairwise.mpr gaps⟩

/-- The bundles keep the contract exactly if the places of each chain fit together. -/
theorem bundles_keep_contract_iff (enabled : config.enabled = true) :
    BundlesKeepContract components config ↔ ChainsFit components config := by
  have classes := @clusters_listsClasses components config
  constructor
  · rintro ⟨contract, -⟩
    have fits : ∀ a b, a ≠ b → Chained components config a b → ∃ members bundle,
        a ∈ members ∧ b ∈ members ∧ members ∈ clusters components config ∧
        ¬members.length < 2 ∧
        bundle.internalVerticalGapM = internalVerticalGap components members 0 ∧
        KeepsContract components config members bundle := by
      intro a b differ chained
      obtain ⟨members, cluster, first⟩ := classes.complete a (List.mem_finRange a)
      have second : b ∈ members :=
        (classes.members members cluster a first b (List.mem_finRange b)).mpr chained
      -- A list of one has no two different members.
      have several : ¬members.length < 2 := by
        intro few
        have some := List.length_pos_of_mem first
        obtain ⟨only, rfl⟩ := List.length_eq_one_iff.mp (show members.length = 1 by omega)
        exact differ ((List.mem_singleton.mp first).trans (List.mem_singleton.mp second).symm)
      obtain ⟨bundle, built, gap⟩ := bundleOf_cluster cluster several
      exact ⟨members, bundle, first, second, cluster, several, gap,
        contract (members, bundle) ((mem_memberBundles enabled).mpr ⟨cluster, built⟩)⟩
    refine ⟨fun a b differ chained => ?_, fun a b differ chained => ?_⟩
    · obtain ⟨members, bundle, first, second, cluster, several, gap, keeps⟩ :=
        fits a b differ chained
      exact ((keepsContract_iff cluster several gap).mp keeps).1 a first b second differ
    · obtain ⟨members, bundle, first, second, cluster, several, gap, keeps⟩ :=
        fits a b differ chained
      exact ((keepsContract_iff cluster several gap).mp keeps).2 a first
  · rintro ⟨pairs, narrow⟩
    refine ⟨?_, ?_⟩
    · rintro ⟨members, bundle⟩ member
      obtain ⟨cluster, built⟩ := (mem_memberBundles enabled).mp member
      have several := bundleOf_several built
      obtain ⟨bundle', built', gap⟩ := bundleOf_cluster cluster several
      obtain rfl : bundle' = bundle := Option.some.inj (built'.symm.trans built)
      obtain ⟨chained, partner, -⟩ := cluster_chained cluster several
      refine (keepsContract_iff cluster several gap).mpr ⟨fun a first b second differ => ?_, ?_⟩
      · exact pairs a b differ ((chained a first b).mp second)
      · intro a first
        obtain ⟨b, second, differ⟩ := partner a first
        exact narrow a b differ ((chained a first b).mp second)
    · unfold memberBundles
      split_ifs
      · exact .nil
      · rw [List.pairwise_filterMap]
        refine classes.disjoint.imp ?_
        intro first second apart entry made entry' made'
        obtain ⟨bundle, -, rfl⟩ := Option.map_eq_some_iff.mp made
        obtain ⟨bundle', -, rfl⟩ := Option.map_eq_some_iff.mp made'
        exact apart

def boxComponent (id : Nat) (centerX lowZ highZ : ℚ) : CargoPhysicalComponentObservation where
  componentId := id
  pointsBase := [centerX - 0.5, centerX + 0.5].flatMap fun x => [(-0.5 : ℚ), 0.5].flatMap fun y =>
    [lowZ, highZ].map fun z => ⟨.fin x, .fin y, .fin z⟩

def bundleConfig : CargoPhysicalBundleConfig := { enabled := true }

theorem chain_exceeds_gap :
    ¬∀ (components : List CargoPhysicalComponentObservation) (config : CargoPhysicalBundleConfig),
      config.enabled = true → BundlesKeepContract components config := by
  intro claimed
  have keeps := claimed [boxComponent 0 0 0 0.1, boxComponent 1 0 0.6 0.7, boxComponent 2 0 1.2 1.3]
    bundleConfig rfl
  have gaps : ∀ entry ∈ memberBundles
      [boxComponent 0 0 0 0.1, boxComponent 1 0 0.6 0.7, boxComponent 2 0 1.2 1.3] bundleConfig,
      entry.2.internalVerticalGapM ≤ bundleConfig.maximumInternalVerticalGapM :=
    fun entry member => (keeps.contract entry member).internalGap
  revert gaps
  with_unfolding_all decide

theorem two_pieces_keep_contract :
    BundlesKeepContract [boxComponent 0 0 0 0.1, boxComponent 1 0 0.6 0.7] bundleConfig ↔
      ChainsFit [boxComponent 0 0 0 0.1, boxComponent 1 0 0.6 0.7] bundleConfig :=
  bundles_keep_contract_iff rfl

end NdtSlam.ComponentBundles
