import Mathlib.Order.Basic

/-! Runs of a deterministic component, and what may be said about the past of a run. -/

namespace NdtSlam

structure Machine (State Call Answer : Type) where
  start : State
  step : State → Call → State × Answer

structure Event (State Call : Type) where
  before : State
  call : Call

namespace Machine

variable {State Call Answer : Type} (machine : Machine State Call Answer)

def run : List Call → State
  | [] => machine.start
  | call :: older => (machine.step (run older) call).1

def trace : List Call → List (Event State Call)
  | [] => []
  | call :: older => ⟨machine.run older, call⟩ :: trace older

theorem run_invariant {Holds : List (Event State Call) → State → Prop}
    (initial : Holds [] machine.start)
    (preserved : ∀ past state call, Holds past state →
      Holds (⟨state, call⟩ :: past) (machine.step state call).1) :
    ∀ calls, Holds (machine.trace calls) (machine.run calls) := by
  -- The run and its trace grow by the same call.
  intro calls
  induction calls with
  | nil => exact initial
  | cons call older ih => exact preserved _ _ call ih

variable {event : Event State Call} {calls : List Call} {newer older : List (Event State Call)}

theorem trace_split_calls (split : machine.trace calls = newer ++ event :: older) :
    ∃ later earlier, calls = later ++ event.call :: earlier ∧ older = machine.trace earlier ∧
      event.before = machine.run earlier := by
  -- Either the event is the most recent one, or it lies in the trace of the older calls.
  induction calls generalizing newer with
  | nil => simp [trace] at split
  | cons call earlier ih =>
    cases newer with
    | nil =>
      obtain ⟨rfl, rfl⟩ := List.cons.inj split
      exact ⟨[], earlier, rfl, rfl, rfl⟩
    | cons head rest =>
      obtain ⟨later, before, rfl, past, start⟩ := ih (List.cons.inj split).2
      exact ⟨call :: later, before, rfl, past, start⟩

theorem trace_split (split : machine.trace calls = newer ++ event :: older) :
    ∃ earlier, older = machine.trace earlier ∧ event.before = machine.run earlier := by
  obtain ⟨-, earlier, -, past, start⟩ := machine.trace_split_calls split
  exact ⟨earlier, past, start⟩

theorem call_mem_of_mem_trace (member : event ∈ machine.trace calls) : event.call ∈ calls := by
  -- The run and its trace grow by the same call.
  induction calls with
  | nil => cases member
  | cons call older ih =>
    rcases List.mem_cons.mp member with rfl | earlier
    · exact List.mem_cons_self
    · exact List.mem_cons_of_mem _ (ih earlier)

def During (occurs : State → Call → Prop) (newer older : List Call) : Prop :=
  ∃ later call earlier, newer = later ++ call :: earlier ∧
    occurs (machine.run (earlier ++ older)) call

theorem not_during_nil {occurs : State → Call → Prop} {older : List Call} :
    ¬machine.During occurs [] older := by
  rintro ⟨later, call, earlier, split, -⟩
  cases later with
  | nil => cases split
  | cons head rest => cases split

theorem during_cons {occurs : State → Call → Prop} {newer older : List Call} {call : Call} :
    machine.During occurs (call :: newer) older ↔
      occurs (machine.run (newer ++ older)) call ∨ machine.During occurs newer older := by
  constructor
  · rintro ⟨later, event, earlier, split, happens⟩
    -- The calls after the event are either none or start with the most recent one.
    cases later with
    | nil =>
      obtain ⟨rfl, rfl⟩ := List.cons.inj split
      exact .inl happens
    | cons head rest =>
      obtain ⟨rfl, rfl⟩ := List.cons.inj split
      exact .inr ⟨rest, event, earlier, rfl, happens⟩
  · rintro (happens | ⟨later, event, earlier, rfl, happens⟩)
    · exact ⟨[], call, newer, rfl, happens⟩
    · exact ⟨call :: later, event, earlier, rfl, happens⟩

theorem run_carried {Holds : State → Prop} {occurs : State → Call → Prop}
    (preserved : ∀ state call, ¬occurs state call → Holds state →
      Holds (machine.step state call).1)
    {newer older : List Call} (quiet : ¬machine.During occurs newer older)
    (holds : Holds (machine.run older)) : Holds (machine.run (newer ++ older)) := by
  induction newer with
  | nil => exact holds
  | cons call newer ih =>
    rw [during_cons, not_or] at quiet
    exact preserved _ _ quiet.1 (ih quiet.2)

end Machine

section Ids

/-- An id that was given out, and that is not in use. -/
def Retired (id next : Nat) (ids : List Nat) : Prop := id < next ∧ id ∉ ids

theorem Retired.grow {id next : Nat} {ids : List Nat} {more : Prop} [Decidable more]
    (retired : Retired id next ids) :
    Retired id (next + if more then 1 else 0) (ids ++ if more then [next] else []) := by
  split_ifs
  · exact ⟨Nat.lt_succ_of_lt retired.1, by simp [retired.2, Nat.ne_of_lt retired.1]⟩
  · exact ⟨retired.1, by simpa using retired.2⟩

end Ids

section Past

variable {Occurrence : Type}

def Since (kept anchor : Occurrence → Prop) (past : List Occurrence) : Prop :=
  ∃ newer event older, past = newer ++ event :: older ∧ anchor event ∧
    ∀ later ∈ newer, kept later

variable {kept anchor : Occurrence → Prop} {event : Occurrence}

theorem Since.now (anchored : anchor event) (older : List Occurrence) :
    Since kept anchor (event :: older) :=
  ⟨[], event, older, rfl, anchored, by simp⟩

theorem Since.later {past : List Occurrence} (harmless : kept event)
    (since : Since kept anchor past) :
    Since kept anchor (event :: past) := by
  -- The new event joins those that came after the anchor.
  obtain ⟨newer, anchoring, older, rfl, anchored, allKept⟩ := since
  refine ⟨event :: newer, anchoring, older, rfl, anchored, ?_⟩
  intro later member
  rcases List.mem_cons.mp member with rfl | member
  · exact harmless
  · exact allKept later member

theorem Since.uncons {past : List Occurrence} (since : Since kept anchor (event :: past)) :
    anchor event ∨ kept event ∧ Since kept anchor past := by
  obtain ⟨newer, anchoring, older, split, anchored, allKept⟩ := since
  -- The events after the anchor are either none or start with the most recent one.
  cases newer with
  | nil =>
    obtain ⟨rfl, -⟩ := List.cons.inj split
    exact .inl anchored
  | cons head rest =>
    obtain ⟨rfl, rfl⟩ := List.cons.inj split
    refine .inr ⟨allKept event (by simp), rest, anchoring, older, rfl, anchored, ?_⟩
    exact fun later member => allKept later (List.mem_cons_of_mem _ member)

/--
A past that ends in a chain of counted events, each following the one counted before it.

Between the first and the last counted event, and after the last one, only idle events occur.
The arguments after the predicates are the length of the chain, its first and its last event.
-/
inductive EvidenceChain (counted idle : Occurrence → Prop)
    (follows : Occurrence → Occurrence → Prop) :
    Nat → Occurrence → Occurrence → List Occurrence → Prop where
  | first {event : Occurrence} (counts : counted event) (older : List Occurrence) :
      EvidenceChain counted idle follows 1 event event (event :: older)
  | next {count : Nat} {opening last event : Occurrence} {past : List Occurrence}
      (chain : EvidenceChain counted idle follows count opening last past)
      (counts : counted event) (continues : follows last event) :
      EvidenceChain counted idle follows (count + 1) opening event (event :: past)
  | idle {count : Nat} {opening last event : Occurrence} {past : List Occurrence}
      (chain : EvidenceChain counted idle follows count opening last past)
      (ignored : idle event) :
      EvidenceChain counted idle follows count opening last (event :: past)

namespace EvidenceChain

variable {counted idle : Occurrence → Prop} {follows : Occurrence → Occurrence → Prop}
  {count : Nat} {opening last : Occurrence} {past : List Occurrence}

section

variable (chain : EvidenceChain counted idle follows count opening last past)
include chain

theorem last_counted :
    counted last := by
  -- Idle events leave the last counted event where it is.
  induction chain with
  | first counts => exact counts
  | next _ counts => exact counts
  | idle _ _ ih => exact ih

theorem ends_in_past :
    opening ∈ past ∧ last ∈ past := by
  -- The chain and its past grow at the same end.
  induction chain with
  | first => exact ⟨List.mem_cons_self, List.mem_cons_self⟩
  | next _ _ _ ih => exact ⟨List.mem_cons_of_mem _ ih.1, List.mem_cons_self⟩
  | idle _ _ ih => exact ⟨List.mem_cons_of_mem _ ih.1, List.mem_cons_of_mem _ ih.2⟩

theorem since_last :
    ∃ newer older, past = newer ++ last :: older ∧ ∀ event ∈ newer, idle event := by
  -- Only an idle event puts something in front of the last one.
  induction chain with
  | first _ older => exact ⟨[], older, rfl, by simp⟩
  | @next _ _ _ _ past => exact ⟨[], past, rfl, by simp⟩
  | @idle _ _ _ event _ _ ignored ih =>
    obtain ⟨newer, older, split, silent⟩ := ih
    refine ⟨event :: newer, older, by rw [split]; rfl, ?_⟩
    exact List.forall_mem_cons.mpr ⟨ignored, silent⟩

theorem count_le {test : Occurrence → Bool} (tested : ∀ event, counted event → test event = true) :
    count ≤ past.countP test := by
  -- A counted event adds one to both, an idle one at most to the past.
  induction chain with
  | first counts older => simp [tested _ counts]
  | next _ counts _ ih => simpa [tested _ counts] using ih
  | idle _ _ ih => exact Nat.le_trans ih (List.sublist_cons_self _ _).countP_le

theorem weaken {counted' idle' : Occurrence → Prop} {follows' : Occurrence → Occurrence → Prop}
    (counts : ∀ event, counted event → counted' event)
    (ignores : ∀ event, idle event → idle' event)
    (continues : ∀ earlier later, counted earlier → counted later → follows earlier later →
      follows' earlier later) :
    EvidenceChain counted' idle' follows' count opening last past := by
  -- Each link keeps its kind, and both ends of a link are counted.
  induction chain with
  | first counted older => exact .first (counts _ counted) older
  | next chain counted followed ih =>
    exact .next ih (counts _ counted) (continues _ _ chain.last_counted counted followed)
  | idle _ ignored ih => exact .idle ih (ignores _ ignored)

theorem spans (transitive : ∀ first second third, follows first second → follows second third →
      follows first third) :
    counted opening ∧ (opening = last ∨ follows opening last) := by
  -- The last event moves forward by one link at a time.
  induction chain with
  | first counts => exact ⟨counts, .inl rfl⟩
  | next _ _ continues ih =>
    obtain ⟨counts, same | followed⟩ := ih
    · exact ⟨counts, .inr (same ▸ continues)⟩
    · exact ⟨counts, .inr (transitive _ _ _ followed continues)⟩
  | idle _ _ ih => exact ih

end

end EvidenceChain
end Past
end NdtSlam
