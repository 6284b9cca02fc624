import NdtSlam.Foundation.History
import NdtSlam.Foundation.Scalar

/-! Timers that run from the first of an uninterrupted sequence of observations. -/

namespace NdtSlam

section Timers

variable {Occurrence : Type} (counted observed : Occurrence → Prop)
  (follows : Occurrence → Occurrence → Prop) (stampOf : Occurrence → Scalar)

def Continues (past : List Occurrence) (event : Occurrence) : Prop :=
  ∀ newer last older, past = newer ++ last :: older → observed last →
    (∀ later ∈ newer, ¬observed later) → follows last event

def Timed (past : List Occurrence) (timer : Scalar) : Prop :=
  timer ≤ 0 ∨ ∃ count opening last,
    EvidenceChain counted (fun event => ¬observed event) follows count opening last past ∧
      stampOf opening = timer

def ConfirmedBy (durationSec : Scalar) (past : List Occurrence) (event : Occurrence) : Prop :=
  ∃ count opening,
    EvidenceChain counted (fun event => ¬observed event) follows count opening event
      (event :: past) ∧
    durationSec ≤ stampOf event - stampOf opening

def startTimer (stampSec timer : Scalar) : Scalar := if timer ≤ 0 then stampSec else timer

inductive ClearStep (counts released : Prop) (durationSec stampSec timer : Scalar) :
    Scalar → Prop where
  | stops (kept : ¬released) : ClearStep counts released durationSec stampSec timer 0
  | runs (holds : counts) (kept : ¬released) :
      ClearStep counts released durationSec stampSec timer (startTimer stampSec timer)
  | confirms (holds : counts) (elapsed : durationSec ≤ stampSec - startTimer stampSec timer)
      (stopped : Bool) :
      ClearStep counts released durationSec stampSec timer
        (if stopped then 0 else startTimer stampSec timer)

variable {counted observed : Occurrence → Prop} {follows : Occurrence → Occurrence → Prop}
  {stampOf : Occurrence → Scalar} {past : List Occurrence} {event : Occurrence} {timer : Scalar}

theorem Continues.ofHead {head : Occurrence} {older : List Occurrence} (observes : observed head)
    (follows_head : follows head event) : Continues observed follows (head :: older) event := by
  intro newer last rest split _ silent
  -- Nothing lies between the event and the head.
  cases newer with
  | nil =>
    obtain ⟨rfl, -⟩ := List.cons.inj split
    exact follows_head
  | cons first others =>
    obtain ⟨rfl, -⟩ := List.cons.inj split
    exact absurd observes (silent head List.mem_cons_self)

theorem Timed.stopped (past : List Occurrence) : Timed counted observed follows stampOf past 0 :=
  .inl (Scalar.le_refl_of_finite rfl)

section

variable (timed : Timed counted observed follows stampOf past timer)
include timed

theorem Timed.unobserved (silent : ¬observed event) :
    Timed counted observed follows stampOf (event :: past) timer := by
  rcases timed with still | ⟨count, opening, last, chain, started⟩
  · exact .inl still
  · exact .inr ⟨count, opening, last, .idle chain silent, started⟩

section

variable (observes : ∀ event, counted event → observed event)
include observes

theorem Timed.prolong (counts : counted event)
    (continues : ¬timer ≤ 0 → Continues observed follows past event) :
    ∃ count opening,
      EvidenceChain counted (fun event => ¬observed event) follows count opening event
        (event :: past) ∧
      stampOf opening = startTimer (stampOf event) timer := by
  unfold startTimer
  by_cases still : timer ≤ 0
  · -- The timer starts with this event.
    rw [if_pos still]
    exact ⟨1, event, .first counts past, rfl⟩
  · rw [if_neg still]
    obtain ⟨count, opening, last, chain, started⟩ := timed.resolve_left still
    -- The last event of the chain is the last observation of the past.
    obtain ⟨newer, older, split, silent⟩ := chain.since_last
    have followed := continues still newer last older split (observes last chain.last_counted)
      silent
    exact ⟨count + 1, opening, .next chain counts followed, started⟩

theorem Timed.proceed (counts : counted event)
    (continues : ¬timer ≤ 0 → Continues observed follows past event) :
    Timed counted observed follows stampOf (event :: past)
      (startTimer (stampOf event) timer) := by
  obtain ⟨count, opening, chain, started⟩ := timed.prolong observes counts continues
  exact .inr ⟨count, opening, event, chain, started⟩

theorem Timed.confirm {durationSec : Scalar} (counts : counted event)
    (continues : ¬timer ≤ 0 → Continues observed follows past event)
    (elapsed : durationSec ≤ stampOf event - startTimer (stampOf event) timer) :
    ConfirmedBy counted observed follows stampOf durationSec past event := by
  obtain ⟨count, opening, chain, started⟩ := timed.prolong observes counts continues
  refine ⟨count, opening, chain, ?_⟩
  rw [started]
  exact elapsed

end

end

variable {durationSec stampSec timer' : Scalar}

theorem ClearStep.countedAs {counts counts' released : Prop}
    (step : ClearStep counts released durationSec stampSec timer timer')
    (weaker : counts → counts') :
    ClearStep counts' released durationSec stampSec timer timer' := by
  cases step with
  | stops kept => exact .stops kept
  | runs holds kept => exact .runs (weaker holds) kept
  | confirms holds elapsed stopped => exact .confirms (weaker holds) elapsed stopped

theorem ClearStep.timer_cases {counts released : Prop}
    (step : ClearStep counts released durationSec stampSec timer timer') :
    timer' = 0 ∨ timer' = stampSec ∨ timer' = timer := by
  have started : startTimer stampSec timer = stampSec ∨ startTimer stampSec timer = timer := by
    unfold startTimer
    split_ifs
    · exact .inl rfl
    · exact .inr rfl
  cases step with
  | stops => exact .inl rfl
  | runs => exact .inr started
  | confirms holds elapsed stopped =>
    cases stopped with
    | true => exact .inl rfl
    | false => exact .inr started

theorem ClearStep.confirmed {released : Prop} {durationSec timer' : Scalar}
    (step : ClearStep (counted event) released durationSec (stampOf event) timer timer')
    (timed : counted event → Timed counted observed follows stampOf past timer)
    (observes : ∀ event, counted event → observed event)
    (continues : counted event → ¬timer ≤ 0 → Continues observed follows past event) :
    Timed counted observed follows stampOf (event :: past) timer' ∧
      (released → ConfirmedBy counted observed follows stampOf durationSec past event) := by
  cases step with
  | stops kept => exact ⟨.stopped _, fun release => absurd release kept⟩
  | runs holds kept =>
    exact ⟨(timed holds).proceed observes holds (continues holds),
      fun release => absurd release kept⟩
  | confirms holds elapsed stopped =>
    refine ⟨?_, fun _ => (timed holds).confirm observes holds (continues holds) elapsed⟩
    cases stopped with
    | true => exact .stopped _
    | false => exact (timed holds).proceed observes holds (continues holds)

end Timers

end NdtSlam
