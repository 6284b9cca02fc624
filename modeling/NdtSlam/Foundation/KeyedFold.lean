import Mathlib.Tactic.Linarith

/-! Folds over keyed items, seen through the part of the state that belongs to one key. -/

namespace NdtSlam

section

variable {State Item View : Type} (update : State → Item → State) (view : State → View)

theorem foldl_view_const (unchanged : ∀ state item, view (update state item) = view state)
    (items : List Item) (state : State) : view (items.foldl update state) = view state := by
  induction items generalizing state with
  | nil => rfl
  | cons head rest ih =>
    rw [List.foldl_cons, ih]
    exact unchanged state head

end

variable {State Item Key View : Type} (keyOf : Item → Key) (update : State → Item → State)
  (view : State → View) {key : Key} {items : List Item}

theorem foldl_view_frame
    (frame : ∀ state item, keyOf item ≠ key → view (update state item) = view state)
    (absent : ∀ item ∈ items, keyOf item ≠ key) (state : State) :
    view (items.foldl update state) = view state := by
  -- Each item of the list is a step that the view does not see.
  induction items generalizing state with
  | nil => rfl
  | cons head rest ih =>
    rw [List.foldl_cons, ih (fun item member => absent item (List.mem_cons_of_mem _ member))]
    exact frame state head (absent head List.mem_cons_self)

theorem foldl_view_local {change : View → View}
    (frame : ∀ state item, keyOf item ≠ key → view (update state item) = view state)
    (distinct : items.Pairwise fun first second => keyOf first ≠ keyOf second) {item : Item}
    (member : item ∈ items) (own : keyOf item = key)
    (acts : ∀ state, view (update state item) = change (view state)) (state : State) :
    view (items.foldl update state) = change (view state) := by
  induction items generalizing state with
  | nil => simp at member
  | cons head rest ih =>
    obtain ⟨headDistinct, restDistinct⟩ := List.pairwise_cons.mp distinct
    rw [List.foldl_cons]
    -- The item of the key is either the first one or among the rest.
    rcases List.mem_cons.mp member with rfl | later
    · have absent : ∀ other ∈ rest, keyOf other ≠ key := by
        intro other among same
        exact headDistinct other among (own.trans same.symm)
      rw [foldl_view_frame keyOf update view frame absent, acts]
    · have foreign : keyOf head ≠ key := by
        intro same
        exact headDistinct item later (same.trans own.symm)
      rw [ih restDistinct later, frame state head foreign]

theorem foldl_adds {Holds : Key → State → Prop}
    (adds : ∀ state item other, Holds other (update state item) →
      other = keyOf item ∨ Holds other state) {state : State} (held : Holds key (items.foldl update state)) :
    key ∈ items.map keyOf ∨ Holds key state := by
  -- The first item adds its key, and the others add theirs.
  induction items generalizing state with
  | nil => exact .inr held
  | cons head rest ih =>
    rcases ih held with later | here
    · exact .inl (List.mem_cons_of_mem _ later)
    · rcases adds state head key here with rfl | older
      · exact .inl List.mem_cons_self
      · exact .inr older

section

variable {Value : Type} {order : Key → Key → Ordering} [Std.TransCmp order]
  [Std.LawfulEqCmp order]

theorem foldl_entries_view (write : State → Key × Value → State) (change : Value → View → View)
    (frame : ∀ state item, item.1 ≠ key → view (write state item) = view state)
    (acts : ∀ state value, view (write state (key, value)) = change value (view state))
    (entries : Std.ExtTreeMap Key Value order) (state : State) :
    view (entries.toList.foldl write state)
      = match entries[key]? with
        | some value => change value (view state)
        | none => view state := by
  have distinct : entries.toList.Pairwise fun first second => first.1 ≠ second.1 := by
    refine entries.distinct_keys_toList.imp ?_
    intro first second apart same
    exact apart (same ▸ Std.ReflCmp.compare_self)
  -- The key has either one entry, or none at all.
  cases found : entries[key]? with
  | some value =>
    have member : (key, value) ∈ entries.toList :=
      Std.ExtTreeMap.mem_toList_iff_getElem?_eq_some.mpr found
    exact foldl_view_local Prod.fst write view frame distinct member rfl
      (fun state => acts state value) state
  | none =>
    refine foldl_view_frame Prod.fst write view frame ?_ state
    intro item member same
    have entry := Std.ExtTreeMap.mem_toList_iff_getElem?_eq_some.mp (member : (item.1, item.2) ∈ _)
    rw [same, found] at entry
    exact absurd entry (by simp)

variable (entries : Std.ExtTreeMap Key Value order)

theorem getElem?_insert_own (value : Value) :
    (entries.insert key value)[key]? = some value := by
  rw [Std.ExtTreeMap.getElem?_insert, if_pos Std.ReflCmp.compare_self]

theorem getElem?_insert_other {written : Key} (other : written ≠ key) (value : Value) :
    (entries.insert written value)[key]? = entries[key]? := by
  rw [Std.ExtTreeMap.getElem?_insert, if_neg]
  intro same
  exact other (Std.LawfulEqCmp.eq_of_compare same)

end

end NdtSlam
