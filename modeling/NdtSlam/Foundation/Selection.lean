import Mathlib.Data.List.Induction
import Mathlib.Order.Lattice

/-! Selecting the foremost of a list of items, by keeping the better of two at a time. -/

namespace NdtSlam

variable {Item Key : Type} {beats : Item → Item → Bool}

def keepBetter (beats : Item → Item → Bool) (champion : Option Item) (challenger : Item) :
    Option Item :=
  match champion with
  | none => some challenger
  | some current => if beats challenger current then some challenger else some current

def foremost (beats : Item → Item → Bool) (items : List Item) : Option Item :=
  items.foldl (keepBetter beats) none

def Leads (beats : Item → Item → Bool) (items : List Item) (leader : Item) : Prop :=
  ∃ earlier later, items = earlier ++ leader :: later ∧
    (∀ other ∈ earlier, beats leader other = true) ∧ (∀ other ∈ later, beats other leader = false)

theorem foremost_concat (items : List Item) (last : Item) :
    foremost beats (items ++ [last]) = keepBetter beats (foremost beats items) last := by
  simp [foremost]

variable {items : List Item}

theorem foremost_eq_none : foremost beats items = none ↔ items = [] := by
  -- The last challenge leaves a champion whatever came before it.
  rcases List.eq_nil_or_concat items with rfl | ⟨initial, last, rfl⟩
  · simp [foremost]
  · rw [List.concat_eq_append, foremost_concat]
    cases foremost beats initial with
    | none => simp [keepBetter]
    | some current =>
      by_cases better : beats last current = true
      all_goals simp [keepBetter, better]

theorem foremost_mem {leader : Item} (found : foremost beats items = some leader) :
    leader ∈ items := by
  induction items using List.reverseRecOn generalizing leader with
  | nil => simp [foremost] at found
  | append_singleton initial last ih =>
    rw [foremost_concat] at found
    -- The champion is either the last challenger or the champion before it.
    cases previous : foremost beats initial with
    | none =>
      rw [previous] at found
      simp only [keepBetter, Option.some.injEq] at found
      simp [found]
    | some current =>
      rw [previous] at found
      by_cases better : beats last current = true
      · simp only [keepBetter, if_pos better, Option.some.injEq] at found
        simp [found]
      · simp only [keepBetter, if_neg better, Option.some.injEq] at found
        subst found
        exact List.mem_append_left [last] (ih previous)

theorem foremost_map {Source : Type} (image : Source → Item) (items : List Source) :
    foremost beats (items.map image) =
      (foremost (fun first second => beats (image first) (image second)) items).map image := by
  induction items using List.reverseRecOn with
  | nil => rfl
  | append_singleton initial last ih =>
    rw [List.map_append, List.map_singleton, foremost_concat, foremost_concat, ih]
    cases foremost (fun first second => beats (image first) (image second)) initial with
    | none => rfl
    | some current =>
      by_cases better : beats (image last) (image current) = true
      all_goals simp [keepBetter, better]

theorem leads_unique {first second : Item} (leads : Leads beats items first)
    (leadsToo : Leads beats items second) : first = second := by
  obtain ⟨earlier, later, split, above, below⟩ := leads
  obtain ⟨earlier', later', split', above', below'⟩ := leadsToo
  rw [split] at split'
  -- A leader further back would both beat and not beat the one in front.
  rcases List.append_eq_append_iff.mp split' with ⟨gap, front, back⟩ | ⟨gap, front, back⟩
  · cases gap with
    | nil => exact (List.cons.inj back).1
    | cons head rest =>
      obtain ⟨rfl, rfl⟩ := List.cons.inj back
      have beaten := above' first (by simp [front])
      rw [below second (by simp)] at beaten
      cases beaten
  · cases gap with
    | nil => exact (List.cons.inj back).1.symm
    | cons head rest =>
      obtain ⟨rfl, rfl⟩ := List.cons.inj back
      have beaten := above second (by simp [front])
      rw [below' first (by simp)] at beaten
      cases beaten

theorem foremost_leads [LinearOrder Key] {key : Item → Key} {leader : Item}
    (ordered : ∀ first ∈ items, ∀ second ∈ items,
      beats first second = true ↔ key first < key second)
    (found : foremost beats items = some leader) :
    Leads beats items leader ∧ ∀ other ∈ items, key leader ≤ key other := by
  -- The invariant of the scan: the champion leads what has been seen, with the least key.
  induction items using List.reverseRecOn generalizing leader with
  | nil => simp [foremost] at found
  | append_singleton initial last ih =>
    have orderedBefore : ∀ first ∈ initial, ∀ second ∈ initial,
        beats first second = true ↔ key first < key second := by
      intro first memberFirst second memberSecond
      exact ordered first (by simp [memberFirst]) second (by simp [memberSecond])
    rw [foremost_concat] at found
    cases previous : foremost beats initial with
    | none =>
      -- The only item leads a list of its own.
      rw [previous] at found
      simp only [keepBetter, Option.some.injEq] at found
      subst found
      rw [foremost_eq_none] at previous
      subst previous
      exact ⟨⟨[], [], rfl, by simp, by simp⟩, by simp⟩
    | some current =>
      rw [previous] at found
      obtain ⟨⟨earlier, later, split, above, below⟩, least⟩ := ih orderedBefore previous
      have member : current ∈ initial := foremost_mem previous
      have lastOrder := ordered last (by simp) current (by simp [member])
      by_cases better : beats last current = true
      · -- The challenger has a smaller key than the least one so far.
        simp only [keepBetter, if_pos better, Option.some.injEq] at found
        subst found
        have smaller : ∀ other ∈ initial, key last < key other := by
          intro other among
          exact (lastOrder.mp better).trans_le (least other among)
        refine ⟨⟨initial, [], rfl, ?_, by simp⟩, ?_⟩
        · intro other among
          exact (ordered last (by simp) other (by simp [among])).mpr (smaller other among)
        · intro other among
          rcases List.mem_append.mp among with among | among
          · exact (smaller other among).le
          · rw [List.mem_singleton.mp among]
      · -- The champion stays, and the challenger joins the items behind it.
        simp only [keepBetter, if_neg better, Option.some.injEq] at found
        subst found
        refine ⟨⟨earlier, later ++ [last], by simp [split], above, ?_⟩, ?_⟩
        · intro other among
          rcases List.mem_append.mp among with among | among
          · exact below other among
          · rw [List.mem_singleton.mp among]
            simpa using better
        · intro other among
          rcases List.mem_append.mp among with among | among
          · exact least other among
          · rw [List.mem_singleton.mp among]
            exact not_lt.mp (fun smaller => better (lastOrder.mpr smaller))

end NdtSlam
