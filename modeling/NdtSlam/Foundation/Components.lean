import Mathlib.Combinatorics.SimpleGraph.Connectivity.Finite

/-! The connected components of finitely many items, and their listing by a clustering. -/

namespace NdtSlam

variable {Item : Type} (near : Item → Item → Prop) (items : List Item)

def proximityGraph : SimpleGraph (Fin items.length) where
  Adj first second := first ≠ second ∧ (near items[first] items[second] ∨
    near items[second] items[first])
  symm := ⟨fun _ _ joined => ⟨joined.1.symm, joined.2.symm⟩⟩
  loopless := ⟨fun _ joined => joined.1 rfl⟩

instance [DecidableRel near] : DecidableRel (proximityGraph near items).Adj :=
  fun first second => inferInstanceAs (Decidable (first ≠ second ∧
    (near items[first] items[second] ∨ near items[second] items[first])))

variable {near items}

structure ListsComponent (component : (proximityGraph near items).ConnectedComponent)
    (indices : List Int) : Prop where
  nodup : indices.Nodup
  members : ∀ index, index ∈ indices ↔
    ∃ place : Fin items.length, (place : Int) = index ∧
      (proximityGraph near items).connectedComponentMk place = component

variable (near items)

structure ListsComponents (minimum : Nat) (groups : List (List Int)) : Prop where
  component : ∀ indices ∈ groups, ∃ component : (proximityGraph near items).ConnectedComponent,
    minimum ≤ component.supp.ncard ∧ ListsComponent component indices
  complete : ∀ component : (proximityGraph near items).ConnectedComponent,
    minimum ≤ component.supp.ncard → ∃ indices ∈ groups, ListsComponent component indices
  disjoint : groups.Pairwise List.Disjoint

variable {near items} {minimum : Nat} {groups : List (List Int)}

theorem countP_mem_le_one {Element : Type} [DecidableEq Element] {lists : List (List Element)}
    (disjoint : lists.Pairwise List.Disjoint) (element : Element) :
    lists.countP (fun list => element ∈ list) ≤ 1 := by
  induction disjoint with
  | nil => simp
  | @cons head rest apart _ ih =>
    rw [List.countP_cons]
    by_cases member : element ∈ head
    · -- The rest does not have what the head has.
      have absent : rest.countP (fun list => element ∈ list) = 0 :=
        List.countP_eq_zero.mpr fun other later found =>
          apart other later member (by simpa using found)
      simp [member, absent]
    · simpa [member] using ih

section

variable (lists : ListsComponents near items minimum groups)
include lists

theorem ListsComponents.countP_eq_one (place : Fin items.length) :
    groups.countP (fun indices => (place : Int) ∈ indices) = 1 ↔
      minimum ≤ ((proximityGraph near items).connectedComponentMk place).supp.ncard := by
  constructor
  · intro once
    have found : 0 < groups.countP (fun indices => (place : Int) ∈ indices) := by omega
    obtain ⟨indices, group, member⟩ := List.countP_pos_iff.mp found
    obtain ⟨component, large, listed⟩ := lists.component indices group
    obtain ⟨same, equal, rfl⟩ := (listed.members place).mp (by simpa using member)
    have places : same = place := Fin.ext (by exact_mod_cast equal)
    rwa [← places]
  · intro large
    obtain ⟨indices, group, listed⟩ := lists.complete _ large
    have member : (place : Int) ∈ indices := (listed.members place).mpr ⟨place, rfl, rfl⟩
    have found : 0 < groups.countP (fun indices => (place : Int) ∈ indices) :=
      List.countP_pos_iff.mpr ⟨indices, group, by simpa using member⟩
    have once := countP_mem_le_one lists.disjoint (place : Int)
    omega

theorem ListsComponents.range {indices : List Int} (group : indices ∈ groups) {index : Int}
    (member : index ∈ indices) :
    ∃ place : Fin items.length, (place : Int) = index := by
  obtain ⟨component, -, listed⟩ := lists.component indices group
  obtain ⟨place, equal, -⟩ := (listed.members index).mp member
  exact ⟨place, equal⟩

theorem ListsComponents.group_ne_nil {indices : List Int} (group : indices ∈ groups) :
    indices ≠ [] := by
  obtain ⟨component, -, listed⟩ := lists.component indices group
  induction component using SimpleGraph.ConnectedComponent.ind with
  | _ place => exact List.ne_nil_of_mem ((listed.members place).mpr ⟨place, rfl, rfl⟩)

theorem ListsComponents.ne_nil :
    groups ≠ [] ↔ ∃ component : (proximityGraph near items).ConnectedComponent,
      minimum ≤ component.supp.ncard := by
  constructor
  · intro some
    obtain ⟨indices, group⟩ := List.exists_mem_of_ne_nil groups some
    obtain ⟨component, large, -⟩ := lists.component indices group
    exact ⟨component, large⟩
  · rintro ⟨component, large⟩
    obtain ⟨indices, group, -⟩ := lists.complete component large
    exact List.ne_nil_of_mem group

end

section Listing

variable (near items) [DecidableRel near]

def reachablePlaces (place : Fin items.length) : List (Fin items.length) :=
  (List.finRange items.length).filter fun other =>
    decide ((proximityGraph near items).Reachable place other)

def placeIndex {count : Nat} (place : Fin count) : Int := place.val

def listComponents (minimum : Nat) : List (List Int) :=
  ((List.finRange items.length).filter fun place =>
      (reachablePlaces near items place).head? = some place &&
        minimum ≤ (reachablePlaces near items place).length).map
    fun place => (reachablePlaces near items place).map placeIndex

variable {near items}

theorem placeIndex_injective {count : Nat} : Function.Injective (@placeIndex count) := by
  intro first second equal
  unfold placeIndex at equal
  omega

variable {place other : Fin items.length}

theorem mem_reachablePlaces :
    other ∈ reachablePlaces near items place ↔
      (proximityGraph near items).Reachable place other := by
  simp [reachablePlaces]

theorem reachablePlaces_length (place : Fin items.length) :
    (reachablePlaces near items place).length
      = ((proximityGraph near items).connectedComponentMk place).supp.ncard := by
  have nodup : (reachablePlaces near items place).Nodup := (List.nodup_finRange _).filter _
  have same : ((proximityGraph near items).connectedComponentMk place).supp
      = ((reachablePlaces near items place).toFinset : Set (Fin items.length)) := by
    ext other
    simp [mem_reachablePlaces, SimpleGraph.ConnectedComponent.mem_supp_iff,
      SimpleGraph.ConnectedComponent.eq, SimpleGraph.reachable_comm]
  rw [same, Set.ncard_coe_finset, List.toFinset_card_of_nodup nodup]

theorem reachablePlaces_congr (reached : (proximityGraph near items).Reachable place other) :
    reachablePlaces near items place = reachablePlaces near items other := by
  unfold reachablePlaces
  refine List.filter_congr fun third _ => ?_
  exact decide_eq_decide.mpr ⟨reached.symm.trans, reached.trans⟩

theorem listsComponent_reachablePlaces (place : Fin items.length) :
    ListsComponent ((proximityGraph near items).connectedComponentMk place)
      ((reachablePlaces near items place).map placeIndex) := by
  constructor
  · exact ((List.nodup_finRange _).filter _).map placeIndex_injective
  · intro index
    simp only [List.mem_map, mem_reachablePlaces, SimpleGraph.ConnectedComponent.eq]
    exact ⟨fun ⟨other, reached, equal⟩ => ⟨other, equal, reached.symm⟩,
      fun ⟨other, equal, reached⟩ => ⟨other, reached.symm, equal⟩⟩

theorem listsComponents_listComponents (minimum : Nat) :
    ListsComponents near items minimum (listComponents near items minimum) := by
  constructor
  · intro indices group
    obtain ⟨place, chosen, rfl⟩ := List.mem_map.mp group
    simp only [List.mem_filter, Bool.and_eq_true, decide_eq_true_eq] at chosen
    rw [reachablePlaces_length] at chosen
    exact ⟨_, chosen.2.2, listsComponent_reachablePlaces place⟩
  · intro component
    induction component using SimpleGraph.ConnectedComponent.ind with
    | _ place =>
      intro large
      -- The first place of the component stands for it.
      have itself : place ∈ reachablePlaces near items place :=
        mem_reachablePlaces.2 (SimpleGraph.Reachable.refl place)
      obtain ⟨first, rest, start⟩ := List.exists_cons_of_ne_nil (List.ne_nil_of_mem itself)
      have listed : first ∈ reachablePlaces near items place := by simp [start]
      have reached := mem_reachablePlaces.1 listed
      have same := reachablePlaces_congr reached
      refine ⟨_, List.mem_map.mpr ⟨first, ?_, rfl⟩, ?_⟩
      · simp only [List.mem_filter, List.mem_finRange, true_and, Bool.and_eq_true,
          decide_eq_true_eq]
        rw [← same, reachablePlaces_length]
        exact ⟨by rw [start]; rfl, large⟩
      · rw [← same]
        exact listsComponent_reachablePlaces place
  · unfold listComponents
    rw [List.pairwise_map]
    refine ((List.nodup_finRange _).filter _).imp_of_mem fun {place other} chosen chosen' differ =>
      ?_
    simp only [List.mem_filter, Bool.and_eq_true, decide_eq_true_eq] at chosen chosen'
    -- Components with a place in common have the same first place.
    intro index member member'
    obtain ⟨third, reached, equal⟩ := List.mem_map.mp member
    obtain ⟨third', reached', equal'⟩ := List.mem_map.mp member'
    obtain rfl := placeIndex_injective (equal.trans equal'.symm)
    have same := reachablePlaces_congr
      ((mem_reachablePlaces.1 reached).trans (mem_reachablePlaces.1 reached').symm)
    have first := chosen.2.1
    rw [same, chosen'.2.1] at first
    exact differ (Option.some.inj first).symm

end Listing
end NdtSlam
