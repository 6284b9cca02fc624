import Mathlib.Data.Fintype.Pigeonhole
import NdtSlam.Foundation.KeyedFold

/-! Forests of parent pointers, and the equivalence that joining their trees builds up. -/

namespace NdtSlam.UnionFind

variable {Node : Type}

structure Root (parent : Node → Node) (node root : Node) : Prop where
  above : ∃ count, parent^[count] node = root
  top : parent root = root

def Rooted (parent : Node → Node) : Prop := ∀ node, ∃ root, Root parent node root

def Linked (parent : Node → Node) (first second : Node) : Prop :=
  ∃ root, Root parent first root ∧ Root parent second root

structure Represents (joined : Node → Node → Prop) (parent : Node → Node) : Prop where
  rooted : Rooted parent
  linked : ∀ first second, Linked parent first second ↔ Relation.EqvGen joined first second

structure Found (parent : Node → Node) (node : Node) (found : Node × (Node → Node)) : Prop where
  root : Root parent node found.1
  kept : ∀ other root, Root parent other root → Root found.2 other root

variable {parent : Node → Node} {node root : Node} {joined : Node → Node → Prop}

theorem eqvGen_inside {Holds : Node → Prop}
    (inside : ∀ first second, joined first second → Holds first ∧ Holds second)
    {first second : Node} (same : Relation.EqvGen joined first second) :
    first = second ∨ Holds first ∧ Holds second := by
  induction same with
  | rel first second related => exact .inr (inside first second related)
  | refl node => exact .inl rfl
  | symm first second _ ih => exact ih.imp Eq.symm And.symm
  | trans first second third _ _ ih ih' =>
    rcases ih with rfl | ⟨holds, middle⟩
    · exact ih'
    · rcases ih' with rfl | ⟨-, holds'⟩
      · exact .inr ⟨holds, middle⟩
      · exact .inr ⟨holds, holds'⟩

/-! ### Roots -/

theorem iterate_top (top : parent root = root) (count : Nat) : parent^[count] root = root :=
  Function.iterate_fixed top count

theorem Root.unique {other : Node} (first : Root parent node root)
    (second : Root parent node other) : root = other := by
  obtain ⟨⟨low, reached⟩, top⟩ := first
  obtain ⟨⟨high, reached'⟩, top'⟩ := second
  -- The longer way goes through the root at the end of the shorter one.
  rcases Nat.le_total low high with less | less
  · obtain ⟨more, rfl⟩ := Nat.exists_eq_add_of_le less
    rw [Nat.add_comm, Function.iterate_add_apply, reached, iterate_top top] at reached'
    exact reached'
  · obtain ⟨more, rfl⟩ := Nat.exists_eq_add_of_le less
    rw [Nat.add_comm, Function.iterate_add_apply, reached', iterate_top top'] at reached
    exact reached.symm

theorem Root.own (top : parent root = root) : Root parent root root := ⟨⟨0, rfl⟩, top⟩

theorem Root.step (above : Root parent (parent node) root) : Root parent node root := by
  obtain ⟨count, reached⟩ := above.above
  exact ⟨⟨count + 1, reached⟩, above.top⟩

theorem Root.lift (below : Root parent node root) : Root parent (parent node) root := by
  obtain ⟨⟨count, reached⟩, top⟩ := below
  refine ⟨⟨count, ?_⟩, top⟩
  rw [← Function.iterate_succ_apply, Function.iterate_succ_apply', reached, top]

theorem Root.induction {Holds : Node → Prop} (below : Root parent node root) (first : Holds root)
    (next : ∀ node, parent node ≠ node → Root parent node root → Holds (parent node) →
      Holds node) : Holds node := by
  obtain ⟨⟨count, reached⟩, top⟩ := below
  induction count generalizing node with
  | zero =>
    obtain rfl : node = root := reached
    exact first
  | succ count ih =>
    by_cases own : parent node = node
    · -- A node that is its own parent is the root.
      rw [iterate_top own] at reached
      exact reached ▸ first
    · exact next node own ⟨⟨count + 1, reached⟩, top⟩ (ih reached)

theorem Root.short [Fintype Node] (below : Root parent node root) :
    ∃ count < Fintype.card Node, parent^[count] node = root := by
  classical
  obtain ⟨above, top⟩ := below
  have least := Nat.find_spec above
  refine ⟨Nat.find above, ?_, least⟩
  by_contra long
  -- A way that is longer comes to some node twice, so a part of it could be left out.
  obtain ⟨first, second, differ, twice⟩ := Fintype.exists_ne_map_eq_of_card_lt
    (fun place : Fin (Fintype.card Node + 1) => parent^[place] node) (by simp)
  have cut : ∀ low high : Nat, low < high → high ≤ Fintype.card Node →
      parent^[low] node = parent^[high] node → False := by
    intro low high less inside again
    have shortened : parent^[Nat.find above - (high - low)] node = root := by
      have split : Nat.find above - (high - low) = (Nat.find above - high) + low := by omega
      rw [split, Function.iterate_add_apply, again, ← Function.iterate_add_apply,
        Nat.sub_add_cancel (by omega), least]
    exact Nat.find_min above (by omega) shortened
  rcases Nat.lt_or_gt_of_ne fun equal => differ (Fin.ext equal) with less | less
  · exact cut first second less (by omega) twice
  · exact cut second first less (by omega) twice.symm

/-! ### Classes -/

theorem linked_equivalence (rooted : Rooted parent) :
    Equivalence (Linked parent) where
  refl node := by
    obtain ⟨root, below⟩ := rooted node
    exact ⟨root, below, below⟩
  symm := fun ⟨root, left, right⟩ => ⟨root, right, left⟩
  trans := by
    rintro first second third ⟨root, left, right⟩ ⟨root', left', right'⟩
    obtain rfl := right.unique left'
    exact ⟨root, left, right'⟩

theorem Represents.intro (rooted : Rooted parent)
    (sound : ∀ first second, Linked parent first second → Relation.EqvGen joined first second)
    (complete : ∀ first second, joined first second → Linked parent first second) :
    Represents joined parent :=
  ⟨rooted, fun first second => ⟨sound first second, fun same =>
    (linked_equivalence rooted).eqvGen_iff.mp (same.mono complete)⟩⟩

theorem represents_id : Represents (fun _ _ : Node => False) id := by
  have own : ∀ node : Node, Root id node node := fun _ => Root.own rfl
  refine .intro (fun node => ⟨node, own node⟩) ?_ (fun _ _ never => never.elim)
  rintro first second ⟨root, left, right⟩
  obtain rfl := left.unique (own first)
  obtain rfl := right.unique (own second)
  exact .refl _

theorem Represents.eqvGen_iff {first second lower upper : Node}
    (represents : Represents joined parent) (left : Root parent first lower)
    (right : Root parent second upper) :
    Relation.EqvGen joined first second ↔ lower = upper := by
  rw [← represents.linked]
  constructor
  · rintro ⟨root, left', right'⟩
    exact (left.unique left').trans (right'.unique right)
  · rintro rfl
    exact ⟨lower, left, right⟩

theorem Represents.congr {joined' : Node → Node → Prop} (represents : Represents joined parent)
    (same : ∀ first second, joined first second ↔ joined' first second) :
    Represents joined' parent := by
  obtain rfl : joined = joined' := funext fun first => funext fun second =>
    propext (same first second)
  exact represents

theorem Represents.of_roots {parent' : Node → Node} (represents : Represents joined parent)
    (kept : ∀ node root, Root parent node root → Root parent' node root) :
    Represents joined parent' := by
  refine .intro (fun node => ?_) (fun first second => ?_) (fun first second related => ?_)
  · obtain ⟨root, below⟩ := represents.rooted node
    exact ⟨root, kept node root below⟩
  · obtain ⟨lower, left⟩ := represents.rooted first
    obtain ⟨upper, right⟩ := represents.rooted second
    rw [represents.eqvGen_iff left right]
    rintro ⟨root, left', right'⟩
    exact ((kept _ _ left).unique left').trans (right'.unique (kept _ _ right))
  · obtain ⟨root, left, right⟩ := (represents.linked first second).mpr (.rel _ _ related)
    exact ⟨root, kept _ _ left, kept _ _ right⟩

def Joining (joined : Node → Node → Prop) (left right first second : Node) : Prop :=
  joined first second ∨ first = left ∧ second = right

theorem eqvGen_joining {left right first second : Node}
    (same : Relation.EqvGen joined first second) :
    Relation.EqvGen (Joining joined left right) first second :=
  same.mono fun _ _ => .inl

theorem Represents.join_same {left right root : Node} (represents : Represents joined parent)
    (below : Root parent left root) (below' : Root parent right root) :
    Represents (Joining joined left right) parent := by
  refine .intro represents.rooted (fun first second linked => ?_) ?_
  · exact eqvGen_joining ((represents.linked first second).mp linked)
  · rintro first second (related | ⟨rfl, rfl⟩)
    · exact (represents.linked first second).mpr (.rel _ _ related)
    · exact ⟨root, below, below'⟩

theorem Represents.joining_comm {left right : Node}
    (represents : Represents (Joining joined right left) parent) :
    Represents (Joining joined left right) parent := by
  have sides : ∀ {left right first second : Node}, Joining joined right left first second →
      Relation.EqvGen (Joining joined left right) first second := by
    rintro left right first second (related | ⟨rfl, rfl⟩)
    · exact .rel _ _ (.inl related)
    · exact .symm _ _ (.rel _ _ (.inr ⟨rfl, rfl⟩))
  refine .intro represents.rooted (fun first second linked => ?_) fun first second related => ?_
  · exact Relation.EqvGen.is_equivalence _ |>.eqvGen_iff.mp
      (((represents.linked first second).mp linked).mono fun _ _ => sides)
  · exact (represents.linked first second).mpr (sides related)

theorem Found.rooted {found : Node × (Node → Node)} (search : Found parent node found)
    (rooted : Rooted parent) : Rooted found.2 := by
  intro node
  obtain ⟨root, below⟩ := rooted node
  exact ⟨root, search.kept node root below⟩

section Changes

variable [DecidableEq Node]

/-! ### Changed parents -/

theorem Root.compress {lifted above other : Node} (moved : Root parent lifted above)
    (below : Root parent other root) : Root (Function.update parent lifted above) other root := by
  by_cases already : lifted = above
  · -- The root itself stays its own parent.
    have same : Function.update parent lifted above = parent := by
      rw [already]
      exact Function.update_eq_self_iff.mpr moved.top.symm
    rwa [same]
  · have stays : Function.update parent lifted above above = above := by
      rw [Function.update_of_ne (Ne.symm already)]
      exact moved.top
    refine @Root.induction Node parent other root
      (fun node => Root (Function.update parent lifted above) node root) below ?_ ?_
    · refine Root.own ?_
      rw [Function.update_of_ne]
      · exact below.top
      · rintro rfl
        exact already (Root.unique (Root.own below.top) moved)
    · intro node moves reaches held
      by_cases own : node = lifted
      · obtain rfl := own
        obtain rfl := reaches.unique moved
        exact Root.step (by rw [Function.update_self]; exact Root.own stays)
      · exact Root.step (by rw [Function.update_of_ne own]; exact held)

theorem Root.join {lower upper other : Node} (first : parent lower = lower)
    (second : parent upper = upper) (apart : lower ≠ upper) (below : Root parent other root) :
    Root (Function.update parent lower upper) other (if root = lower then upper else root) := by
  have stays : Function.update parent lower upper upper = upper := by
    rw [Function.update_of_ne apart.symm]
    exact second
  refine @Root.induction Node parent other root (fun node =>
    Root (Function.update parent lower upper) node (if root = lower then upper else root))
    below ?_ ?_
  · split_ifs with own
    · rw [own]
      exact Root.step (by rw [Function.update_self]; exact Root.own stays)
    · refine Root.own ?_
      rw [Function.update_of_ne own]
      exact below.top
  · -- A node that moves is not the old root, so that it keeps its parent.
    intro node moves reaches held
    have kept : node ≠ lower := by
      rintro rfl
      exact moves first
    exact Root.step (by rwa [Function.update_of_ne kept])

theorem Represents.join {left right lower upper : Node} (represents : Represents joined parent)
    (below : Root parent left lower) (below' : Root parent right upper) (apart : lower ≠ upper) :
    Represents (Joining joined left right) (Function.update parent lower upper) := by
  have moved : ∀ {node root}, Root parent node root → Root (Function.update parent lower upper)
      node (if root = lower then upper else root) := Root.join below.top below'.top apart
  have edge : Relation.EqvGen (Joining joined left right) left right := .rel _ _ (.inr ⟨rfl, rfl⟩)
  refine .intro (fun node => ?_) (fun first second => ?_) (fun first second => ?_)
  · obtain ⟨root, reaches⟩ := represents.rooted node
    exact ⟨_, moved reaches⟩
  · obtain ⟨top, reaches⟩ := represents.rooted first
    obtain ⟨top', reaches'⟩ := represents.rooted second
    have old : ∀ {node node' root root'}, Root parent node root → Root parent node' root' →
        root = root' → Relation.EqvGen (Joining joined left right) node node' :=
      fun one other same => eqvGen_joining ((represents.eqvGen_iff one other).mpr same)
    rintro ⟨root, one, other⟩
    have same := ((moved reaches).unique one).trans (other.unique (moved reaches'))
    -- Two old roots become one if they were, or if they are the two that are joined.
    split_ifs at same with here here' here'
    · exact old reaches reaches' (here.trans here'.symm)
    · exact (old reaches below here).trans _ _ _
        (edge.trans _ _ _ (old below' reaches' same))
    · exact (old reaches below' same).trans _ _ _
        ((edge.symm).trans _ _ _ (old below reaches' here'.symm))
    · exact old reaches reaches' same
  · rintro (related | ⟨rfl, rfl⟩)
    · obtain ⟨root, one, other⟩ := (represents.linked first second).mpr (.rel _ _ related)
      exact ⟨_, moved one, moved other⟩
    · have lowered := moved below
      have raised := moved below'
      rw [if_pos rfl] at lowered
      rw [if_neg apart.symm] at raised
      exact ⟨upper, lowered, raised⟩

theorem Represents.unite {left right : Node} (represents : Represents joined parent)
    {first second : Node × (Node → Node)} (found : Found parent left first)
    (found' : Found first.2 right second) :
    Represents (Joining joined left right)
        (if first.1 ≠ second.1 then Function.update second.2 first.1 second.1 else second.2) ∧
      Represents (Joining joined left right)
        (if first.1 ≠ second.1 then Function.update second.2 second.1 first.1 else second.2) := by
  have still := (represents.of_roots found.kept).of_roots found'.kept
  have lower : Root second.2 left first.1 := found'.kept _ _ (found.kept _ _ found.root)
  have upper : Root second.2 right second.1 := found'.kept _ _ found'.root
  split_ifs with apart
  · exact ⟨still.join lower upper apart, (still.join upper lower apart.symm).joining_comm⟩
  · have same : second.1 = first.1 := (not_not.mp apart).symm
    exact ⟨still.join_same lower (same ▸ upper), still.join_same lower (same ▸ upper)⟩

/-! ### Searches -/

def climb (parent : Node → Node) : Nat → Node → Node
  | 0, node => node
  | fuel + 1, node => if parent node = node then node else climb parent fuel (parent node)

def flatten (root : Node) : Nat → (Node → Node) → Node → (Node → Node)
  | 0, parent, _ => parent
  | fuel + 1, parent, node =>
    if parent node = root then parent
    else flatten root fuel (Function.update parent node root) (parent node)

def findByLoops (fuel : Nat) (parent : Node → Node) (node : Node) : Node × (Node → Node) :=
  let root := climb parent fuel node
  (root, flatten root fuel parent node)

def findByRecursion : Nat → (Node → Node) → Node → Node × (Node → Node)
  | 0, parent, node => (node, parent)
  | fuel + 1, parent, node =>
    if parent node = node then (parent node, parent)
    else
      let above := findByRecursion fuel parent (parent node)
      (above.1, Function.update above.2 node above.1)

theorem climb_eq (below : Root parent node root) {count fuel : Nat} (enough : count ≤ fuel)
    (reached : parent^[count] node = root) : climb parent fuel node = root := by
  induction fuel generalizing node count with
  | zero =>
    obtain rfl : count = 0 := by omega
    exact reached
  | succ fuel ih =>
    unfold climb
    split_ifs with own
    · rwa [iterate_top own] at reached
    · cases count with
      | zero =>
        obtain rfl : node = root := reached
        exact absurd below.top own
      | succ count => exact ih ⟨⟨count, reached⟩, below.top⟩ (by omega) reached

variable {fuel : Nat}

theorem flatten_kept (below : Root parent node root) {other top : Node}
    (reaches : Root parent other top) : Root (flatten root fuel parent node) other top := by
  induction fuel generalizing parent node with
  | zero => exact reaches
  | succ fuel ih =>
    unfold flatten
    split_ifs with done
    · exact reaches
    · exact ih (below.compress below.lift) (below.compress reaches)

variable [Fintype Node]

theorem found_byLoops (enough : Fintype.card Node ≤ fuel) (rooted : Rooted parent) (node : Node) :
    Found parent node (findByLoops fuel parent node) := by
  obtain ⟨root, below⟩ := rooted node
  obtain ⟨count, less, reached⟩ := below.short
  have top : climb parent fuel node = root := climb_eq below (by omega) reached
  unfold findByLoops
  rw [top]
  exact ⟨below, fun _ _ => flatten_kept below⟩

theorem found_byRecursion (enough : Fintype.card Node ≤ fuel)
    (rooted : Rooted parent) (node : Node) :
    Found parent node (findByRecursion fuel parent node) := by
  obtain ⟨root, below⟩ := rooted node
  obtain ⟨count, less, reached⟩ := below.short
  have short : count ≤ fuel := by omega
  clear less enough
  -- Each call goes one step up, and what it finds is the root of the node as well.
  induction fuel generalizing node count with
  | zero =>
    obtain rfl : count = 0 := by omega
    obtain rfl : node = root := reached
    exact ⟨below, fun _ _ reaches => reaches⟩
  | succ fuel ih =>
    unfold findByRecursion
    split_ifs with own
    · rw [own]
      exact ⟨Root.own own, fun _ _ reaches => reaches⟩
    · cases count with
      | zero =>
        obtain rfl : node = root := reached
        exact absurd below.top own
      | succ count =>
        obtain ⟨above, kept⟩ := ih (parent node) below.lift count reached (by omega)
        refine ⟨above.step, fun other top reaches => ?_⟩
        exact (kept _ _ above.step).compress (kept _ _ reaches)

def top (parent : Node → Node) (node : Node) : Node := climb parent (Fintype.card Node) node

theorem root_top (rooted : Rooted parent) (node : Node) :
    Root parent node (top parent node) := (found_byLoops (Nat.le_refl _) rooted node).root

theorem top_eq (below : Root parent node root) : top parent node = root := by
  obtain ⟨count, less, reached⟩ := below.short
  exact climb_eq below (by omega) reached

theorem top_kept {parent' : Node → Node} (rooted : Rooted parent)
    (kept : ∀ node root, Root parent node root → Root parent' node root) :
    top parent' = top parent := funext fun node => top_eq (kept _ _ (root_top rooted node))

theorem Represents.eqvGen_iff_top (represents : Represents joined parent) (first second : Node) :
    Relation.EqvGen joined first second ↔ top parent first = top parent second :=
  represents.eqvGen_iff (root_top represents.rooted first) (root_top represents.rooted second)

end Changes

section Loops

/-! ### Loops over pairs and nodes -/

theorem represents_foldl {join : (Node → Node) → Node × Node → (Node → Node)}
    {related : Node → Node → Prop} [DecidableRel related]
    (joins : ∀ (parent : Node → Node) (joined : Node → Node → Prop) (pair : Node × Node),
      Represents joined parent → Represents (Joining joined pair.1 pair.2) (join parent pair))
    (pairs : List (Node × Node)) (represents : Represents joined parent) :
    Represents (fun first second =>
        joined first second ∨ (first, second) ∈ pairs ∧ related first second)
      (pairs.foldl (fun parent pair =>
        if related pair.1 pair.2 then join parent pair else parent) parent) := by
  induction pairs generalizing parent joined with
  | nil => exact represents.congr fun first second => by simp
  | cons pair pairs ih =>
    rw [List.foldl_cons]
    split_ifs with near
    · refine (ih (joins parent joined pair represents)).congr fun first second => ?_
      unfold Joining
      constructor
      · rintro ((before | ⟨rfl, rfl⟩) | ⟨member, near'⟩)
        · exact .inl before
        · exact .inr ⟨List.mem_cons_self, near⟩
        · exact .inr ⟨List.mem_cons_of_mem _ member, near'⟩
      · rintro (before | ⟨member, near'⟩)
        · exact .inl (.inl before)
        · rcases List.mem_cons.mp member with rfl | later
          · exact .inl (.inr ⟨rfl, rfl⟩)
          · exact .inr ⟨later, near'⟩
    · refine (ih represents).congr fun first second => or_congr_right ?_
      constructor
      · rintro ⟨member, near'⟩
        exact ⟨List.mem_cons_of_mem _ member, near'⟩
      · rintro ⟨member, near'⟩
        rcases List.mem_cons.mp member with rfl | later
        · exact absurd near' near
        · exact ⟨later, near'⟩

def orderedPairs (count : Nat) : List (Fin count × Fin count) :=
  (List.finRange count).flatMap fun first =>
    ((List.finRange count).filter (first < ·)).map fun second => (first, second)

theorem mem_orderedPairs {count : Nat} {first second : Fin count} :
    (first, second) ∈ orderedPairs count ↔ first < second := by
  simp [orderedPairs]

theorem represents_orderedPairs {count : Nat} {related : Fin count → Fin count → Prop}
    {parent : Fin count → Fin count} (symmetric : ∀ first second, related first second →
      related second first)
    (represents : Represents (fun first second =>
      False ∨ (first, second) ∈ orderedPairs count ∧ related first second) parent) :
    Represents related parent := by
  refine .intro represents.rooted (fun first second linked => ?_) fun first second near => ?_
  · exact ((represents.linked first second).mp linked).mono fun _ _ joined =>
      joined.elim False.elim And.right
  · -- One of the two orders is among the pairs.
    rw [represents.linked]
    rcases lt_trichotomy first second with less | rfl | more
    · exact .rel _ _ (.inr ⟨mem_orderedPairs.2 less, near⟩)
    · exact .refl first
    · exact .symm _ _ (.rel _ _ (.inr ⟨mem_orderedPairs.2 more, symmetric _ _ near⟩))

structure ListsClasses (same : Node → Node → Prop) (nodes : List Node)
    (lists : List (List Node)) : Prop where
  sublist : ∀ list ∈ lists, list.Sublist nodes
  nonempty : ∀ list ∈ lists, list ≠ []
  members : ∀ list ∈ lists, ∀ node ∈ list, ∀ other ∈ nodes, other ∈ list ↔ same node other
  complete : ∀ node ∈ nodes, ∃ list ∈ lists, node ∈ list
  disjoint : lists.Pairwise List.Disjoint

theorem ListsClasses.map {Image : Type} {same : Node → Node → Prop} {nodes : List Node}
    {lists : List (List Node)} {same' : Image → Image → Prop} {image : Node → Image}
    (classes : ListsClasses same nodes lists) (injective : Function.Injective image)
    (kept : ∀ first second, same' (image first) (image second) ↔ same first second) :
    ListsClasses same' (nodes.map image) (lists.map (List.map image)) := by
  refine ⟨?_, ?_, ?_, ?_, ?_⟩
  · intro list member
    obtain ⟨source, inside, rfl⟩ := List.mem_map.mp member
    exact (classes.sublist source inside).map image
  · intro list member
    obtain ⟨source, inside, rfl⟩ := List.mem_map.mp member
    simpa using classes.nonempty source inside
  · intro list member node among other inside'
    obtain ⟨source, inside, rfl⟩ := List.mem_map.mp member
    obtain ⟨first, here, rfl⟩ := List.mem_map.mp among
    obtain ⟨second, there, rfl⟩ := List.mem_map.mp inside'
    rw [List.mem_map_of_injective injective, kept,
      classes.members source inside first here second there]
  · intro node inside
    obtain ⟨source, here, rfl⟩ := List.mem_map.mp inside
    obtain ⟨list, member, among⟩ := classes.complete source here
    exact ⟨list.map image, List.mem_map_of_mem member, List.mem_map_of_mem among⟩
  · rw [List.pairwise_map]
    refine classes.disjoint.imp ?_
    intro first second apart
    exact List.disjoint_map injective apart

section Collecting

variable {Value : Type} [Ord Node] [Std.TransOrd Node] [Std.LawfulEqOrd Node]
  {find : (Node → Node) → Node → Node × (Node → Node)} (value : Node → Value)

def collectNode (find : (Node → Node) → Node → Node × (Node → Node)) (value : Node → Value)
    (state : (Node → Node) × Std.ExtTreeMap Node (List Value)) (node : Node) :
    (Node → Node) × Std.ExtTreeMap Node (List Value) :=
  let found := find state.1 node
  (found.2, state.2.alter found.1 fun values => some (values.getD [] ++ [value node]))

def collect (find : (Node → Node) → Node → Node × (Node → Node)) (value : Node → Value)
    (nodes : List Node) (parent : Node → Node) : Std.ExtTreeMap Node (List Value) :=
  (nodes.foldl (collectNode find value) (parent, ∅)).2

variable [DecidableEq Node] [Fintype Node]

def nodesBelow (parent : Node → Node) (nodes : List Node) (root : Node) : List Node :=
  nodes.filter fun node => top parent node = root

theorem foldl_collectNode
    (finds : ∀ parent : Node → Node, Rooted parent → ∀ node, Found parent node (find parent node))
    (rooted : Rooted parent) (nodes : List Node)
    (entries : Std.ExtTreeMap Node (List Value)) (root : Node) :
    (nodes.foldl (collectNode find value) (parent, entries)).2[root]?
      = if nodesBelow parent nodes root = [] then entries[root]?
        else some (entries[root]?.getD [] ++ (nodesBelow parent nodes root).map value) := by
  induction nodes generalizing parent entries with
  | nil => rfl
  | cons node nodes ih =>
    have found := finds parent rooted node
    have same : nodesBelow (find parent node).2 = nodesBelow parent := by
      unfold nodesBelow
      rw [top_kept rooted found.kept]
    have own : top parent node = (find parent node).1 := top_eq found.root
    rw [List.foldl_cons, collectNode, ih (found.rooted rooted), same]
    by_cases here : (find parent node).1 = root
    · -- The node is the first one below the root.
      have first : nodesBelow parent (node :: nodes) root
          = node :: nodesBelow parent nodes root := List.filter_cons_of_pos (by simp [own, here])
      rw [first, if_neg (List.cons_ne_nil _ _), here, Std.ExtTreeMap.getElem?_alter_self]
      by_cases last : nodesBelow parent nodes root = []
      · rw [if_pos last, last]
        rfl
      · rw [if_neg last, Option.getD_some, List.append_assoc]
        rfl
    · have skipped : nodesBelow parent (node :: nodes) root = nodesBelow parent nodes root :=
        List.filter_cons_of_neg (by simp [own, here])
      have apart : ¬compare (find parent node).1 root = .eq := by
        intro equal
        exact here (Std.LawfulEqOrd.eq_of_compare equal)
      rw [skipped, Std.ExtTreeMap.getElem?_alter, if_neg apart]

theorem collect_listsClasses
    (finds : ∀ parent : Node → Node, Rooted parent → ∀ node, Found parent node (find parent node))
    (represents : Represents joined parent) (nodes : List Node) :
    ∃ lists, ListsClasses (Relation.EqvGen joined) nodes lists ∧
      (collect find value nodes parent).toList.map Prod.snd = lists.map (List.map value) := by
  have entry : ∀ root, (collect find value nodes parent)[root]?
      = if nodesBelow parent nodes root = [] then none
        else some ((nodesBelow parent nodes root).map value) := by
    intro root
    unfold collect
    rw [foldl_collectNode value finds represents.rooted]
    simp
  have listed : ∀ item ∈ (collect find value nodes parent).toList,
      nodesBelow parent nodes item.1 ≠ [] ∧
        item.2 = (nodesBelow parent nodes item.1).map value := by
    intro item member
    have found := Std.ExtTreeMap.mem_toList_iff_getElem?_eq_some.mp (member : (item.1, item.2) ∈ _)
    rw [entry] at found
    split_ifs at found with empty
    exact ⟨empty, (Option.some.inj found).symm⟩
  have mem : ∀ {node root}, node ∈ nodesBelow parent nodes root ↔
      node ∈ nodes ∧ top parent node = root := by
    intro node root
    simp [nodesBelow]
  refine ⟨(collect find value nodes parent).toList.map fun item => nodesBelow parent nodes item.1,
    ⟨?_, ?_, ?_, ?_, ?_⟩, ?_⟩
  · intro list member
    obtain ⟨item, -, rfl⟩ := List.mem_map.mp member
    exact List.filter_sublist
  · intro list member
    obtain ⟨item, inside, rfl⟩ := List.mem_map.mp member
    exact (listed item inside).1
  · intro list member node among other inside
    obtain ⟨item, -, rfl⟩ := List.mem_map.mp member
    rw [represents.eqvGen_iff_top, mem, (mem.mp among).2]
    exact ⟨fun found => found.2.symm, fun found => ⟨inside, found.symm⟩⟩
  · intro node inside
    have below : node ∈ nodesBelow parent nodes (top parent node) := mem.mpr ⟨inside, rfl⟩
    have present := entry (top parent node)
    rw [if_neg (List.ne_nil_of_mem below)] at present
    exact ⟨_, List.mem_map.mpr ⟨_, Std.ExtTreeMap.mem_toList_iff_getElem?_eq_some.mpr present,
      rfl⟩, below⟩
  · rw [List.pairwise_map]
    refine (collect find value nodes parent).distinct_keys_toList.imp ?_
    intro first second apart node left right
    have equal : first.1 = second.1 := (mem.mp left).2.symm.trans (mem.mp right).2
    exact apart (equal ▸ Std.ReflCmp.compare_self)
  · rw [List.map_map]
    exact List.map_congr_left fun item member => (listed item member).2

end Collecting

end Loops

end NdtSlam.UnionFind
