import Mathlib.Order.Basic

/-! Computations that either succeed or are refused for a reason. -/

namespace NdtSlam

theorem bind_eq_ok {Reason First Second : Type} {first : Except Reason First}
    {next : First → Except Reason Second} {result : Second} :
    first >>= next = .ok result ↔ ∃ value, first = .ok value ∧ next value = .ok result := by
  cases first with
  | error reason =>
    constructor
    · intro done
      cases done
    · rintro ⟨value, done, -⟩
      cases done
  | ok value =>
    constructor
    · intro done
      exact ⟨value, rfl, done⟩
    · rintro ⟨value, ⟨⟩, done⟩
      exact done

def refuseIf (faulty : Bool) (reason : String) : Except String Unit :=
  if faulty then .error reason else .ok ()

@[simp] theorem refuseIf_eq_ok {faulty : Bool} {reason : String} {result : Unit} :
    refuseIf faulty reason = .ok result ↔ faulty = false := by
  cases faulty <;> simp [refuseIf]

theorem forM_eq_ok {Reason Item : Type} {items : List Item} {check : Item → Except Reason Unit} :
    forM items check = .ok () ↔ ∀ item ∈ items, check item = .ok () := by
  induction items with
  | nil => simp [pure, Except.pure]
  | cons head rest ih =>
    -- The rest is only checked once the head has passed.
    rw [List.forM_cons, bind_eq_ok, List.forall_mem_cons, ← ih]
    constructor
    · rintro ⟨⟨⟩, first, others⟩
      exact ⟨first, others⟩
    · rintro ⟨first, others⟩
      exact ⟨(), first, others⟩

theorem foldlM_eq_ok {Reason State Item : Type} {step : State → Item → Except Reason State}
    {items : List Item} {start result : State} (done : items.foldlM step start = .ok result) :
    ∀ item ∈ items, ∃ before after, step before item = .ok after := by
  induction items generalizing start with
  | nil => simp
  | cons head rest ih =>
    rw [List.foldlM_cons, bind_eq_ok] at done
    obtain ⟨after, first, others⟩ := done
    exact List.forall_mem_cons.mpr ⟨⟨start, after, first⟩, ih others⟩

theorem foldlM_notes {Reason State Item Note : Type} {step : State → Item → Except Reason State}
    {noted : State → Note → Prop} {notes : Item → Note → Prop}
    (adds : ∀ before item after, step before item = .ok after →
      ∃ note, notes item note ∧ ∀ other, noted after other ↔ other = note ∨ noted before other)
    {items : List Item} {start result : State} (done : items.foldlM step start = .ok result) :
    (∀ note, noted start note → noted result note) ∧
      (∀ item ∈ items, ∃ note, notes item note ∧ noted result note) ∧
      ∀ note, noted result note → noted start note ∨ ∃ item ∈ items, notes item note := by
  induction items generalizing start with
  | nil =>
    cases done
    exact ⟨fun _ => id, by simp, fun _ => .inl⟩
  | cons head rest ih =>
    rw [List.foldlM_cons, bind_eq_ok] at done
    obtain ⟨after, first, others⟩ := done
    obtain ⟨note, headNotes, gained⟩ := adds start head after first
    obtain ⟨keeps, all, only⟩ := ih others
    refine ⟨fun other known => keeps other ((gained other).mpr (.inr known)), ?_, ?_⟩
    · exact List.forall_mem_cons.mpr
        ⟨⟨note, headNotes, keeps note ((gained note).mpr (.inl rfl))⟩, all⟩
    · intro other known
      -- What is noted at the end comes from the rest, from the head, or from the start.
      rcases only other known with before | ⟨item, member, itemNotes⟩
      · rcases (gained other).mp before with rfl | before
        · exact .inr ⟨head, List.mem_cons_self, headNotes⟩
        · exact .inl before
      · exact .inr ⟨item, List.mem_cons_of_mem _ member, itemNotes⟩

end NdtSlam
