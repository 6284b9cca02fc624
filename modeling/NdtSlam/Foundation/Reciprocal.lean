import Mathlib.Order.Basic

/-! Matching rows with columns only where each is the one good choice of the other. -/

namespace NdtSlam

structure Offer (Cost : Type) where
  row : Nat
  column : Nat
  cost : Cost

inductive RowMatch where
  | unmatched
  | matched (column : Nat)
  | ambiguous
  deriving DecidableEq

section

variable {Cost : Type} (worst : Cost) (undercuts competes : Cost → Cost → Bool)

def keepCheaper (target : Offer Cost → Nat) (best : Cost × Option Nat) (offer : Offer Cost) :
    Cost × Option Nat :=
  if undercuts offer.cost best.1 then (offer.cost, some (target offer)) else best

def cheapest (target : Offer Cost → Nat) (offers : List (Offer Cost)) : Cost × Option Nat :=
  offers.foldl (keepCheaper undercuts target) (worst, none)

def soleTarget (target : Offer Cost → Nat) (offers : List (Offer Cost)) : RowMatch :=
  let best := cheapest worst undercuts target offers
  if 1 < (offers.filter fun offer => competes offer.cost best.1).length then .ambiguous
  else
    match best.2 with
    | none => .unmatched
    | some index => .matched index

def reciprocalMatch (offers : List (Offer Cost)) (row : Nat) : RowMatch :=
  match soleTarget worst undercuts competes Offer.column
      (offers.filter fun offer => offer.row == row) with
  | .unmatched => .unmatched
  | .ambiguous => .ambiguous
  | .matched column =>
    let rivals := offers.filter fun offer => offer.column == column
    let best := cheapest worst undercuts Offer.row rivals
    if (rivals.filter fun offer => competes offer.cost best.1).length = 1 ∧ best.2 = some row then
      .matched column
    else .ambiguous

variable {worst undercuts competes} {offers : List (Offer Cost)}

theorem cheapest_of_reciprocalMatch {row column : Nat}
    (found : reciprocalMatch worst undercuts competes offers row = .matched column) :
    (cheapest worst undercuts Offer.row
      (offers.filter fun offer => offer.column == column)).2 = some row := by
  unfold reciprocalMatch at found
  -- Only a row with one good choice is matched, and only when the choice is returned.
  cases chosen : soleTarget worst undercuts competes Offer.column
      (offers.filter fun offer => offer.row == row) with
  | unmatched => simp [chosen] at found
  | ambiguous => simp [chosen] at found
  | matched choice =>
    simp only [chosen] at found
    split at found
    · rename_i agreed
      obtain rfl := RowMatch.matched.inj found
      exact agreed.2
    · cases found

theorem reciprocalMatch_injective {first second column : Nat}
    (found : reciprocalMatch worst undercuts competes offers first = .matched column)
    (also : reciprocalMatch worst undercuts competes offers second = .matched column) :
    first = second :=
  -- Both rows are the cheapest row of the column.
  Option.some.inj ((cheapest_of_reciprocalMatch found).symm.trans
    (cheapest_of_reciprocalMatch also))

theorem cheapest_mem {target : Offer Cost → Nat} {index : Nat}
    (found : (cheapest worst undercuts target offers).2 = some index) :
    ∃ offer ∈ offers, target offer = index := by
  -- The champion was either there from the start or is the target of an offer seen so far.
  have general : ∀ (offers : List (Offer Cost)) (best : Cost × Option Nat),
      (offers.foldl (keepCheaper undercuts target) best).2 = some index →
        best.2 = some index ∨ ∃ offer ∈ offers, target offer = index := by
    intro offers
    induction offers with
    | nil => exact fun best reached => .inl reached
    | cons head rest ih =>
      intro best reached
      rcases ih _ reached with earlier | ⟨offer, member, aims⟩
      · unfold keepCheaper at earlier
        by_cases better : undercuts head.cost best.1 = true
        · rw [if_pos better] at earlier
          exact .inr ⟨head, List.mem_cons_self, Option.some.inj earlier⟩
        · rw [if_neg better] at earlier
          exact .inl earlier
      · exact .inr ⟨offer, List.mem_cons_of_mem _ member, aims⟩
  rcases general offers _ found with absent | offered
  · cases absent
  · exact offered

theorem offered_of_reciprocalMatch {row column : Nat}
    (found : reciprocalMatch worst undercuts competes offers row = .matched column) :
    ∃ offer ∈ offers, offer.row = row ∧ offer.column = column := by
  obtain ⟨offer, member, sameRow⟩ := cheapest_mem (cheapest_of_reciprocalMatch found)
  have sameColumn := (List.mem_filter.mp member).2
  exact ⟨offer, (List.mem_filter.mp member).1, sameRow, by simpa using sameColumn⟩

end

end NdtSlam
