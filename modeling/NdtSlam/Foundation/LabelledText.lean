import Mathlib.Data.List.Infix

/-! Texts that put a label before every field but the first, and how many ways there are to read
them. -/

namespace NdtSlam
namespace LabelledText

variable {α : Type*} {separator : α} {label other word field before after : List α}
  {rest more : List (List α × List α)}

def IsLabel (separator : α) (label : List α) : Prop :=
  ∃ word, label = separator :: word ∧ separator ∉ word

def joined : List α → List (List α × List α) → List α
  | field, [] => field
  | field, (label, next) :: rest => field ++ (label ++ joined next rest)

def Apart : List α → List (List α × List α) → Prop
  | _, [] => True
  | field, (label, next) :: rest => ¬label <:+: field ∧ ¬label <:+: next ∧ Apart next rest

def ReadOneWay (field : List α) (rest : List (List α × List α)) : Prop :=
  ∀ next more, more.map Prod.fst = rest.map Prod.fst → joined next more = joined field rest →
    next = field ∧ more = rest

theorem joined_append : joined (before ++ field) rest = before ++ joined field rest := by
  cases rest with
  | nil => rfl
  | cons entry rest => simp only [joined, List.append_assoc]

theorem joined_concat (labels : List (List α × List α)) (field last tail : List α) :
    joined field (labels ++ [(label, last ++ tail)])
      = joined field (labels ++ [(label, last)]) ++ tail := by
  induction labels generalizing field with
  | nil => simp only [List.nil_append, joined, List.append_assoc]
  | cons entry labels ih => simp only [List.cons_append, joined, ih, List.append_assoc]

theorem eq_of_separator (absent : separator ∉ before) (missing : separator ∉ other)
    (same : before ++ separator :: word = other ++ separator :: after) :
    before = other ∧ word = after := by
  -- The beginnings are as long as each other, for the longer one would contain the separator.
  induction before generalizing other with
  | nil =>
    cases other with
    | nil => exact ⟨rfl, (List.cons.inj same).2⟩
    | cons head other =>
      have head_eq := (List.cons.inj same).1
      exact absurd (head_eq ▸ List.mem_cons_self) missing
  | cons head before ih =>
    cases other with
    | nil =>
      have head_eq := (List.cons.inj same).1
      exact absurd (head_eq ▸ List.mem_cons_self) absent
    | cons start other =>
      obtain ⟨rfl, tails⟩ := List.cons.inj same
      obtain ⟨rfl, rest⟩ := ih (fun member => absent (List.mem_cons_of_mem _ member))
        (fun member => missing (List.mem_cons_of_mem _ member)) tails
      exact ⟨rfl, rest⟩

theorem IsLabel.behind {drift : List α} (isLabel : IsLabel separator label)
    (isOther : IsLabel separator other) (moved : drift ≠ [])
    (same : label ++ after = drift ++ (other ++ word)) :
    ∃ gap, drift = label ++ gap ∧ after = gap ++ (other ++ word) := by
  -- Only the head of a label is a separator, so the later label does not begin inside this one.
  obtain ⟨letters, rfl, absent⟩ := isLabel
  obtain ⟨letters', rfl, -⟩ := isOther
  rcases List.append_eq_append_iff.mp same with ⟨gap, split, rest⟩ | ⟨gap, split, rest⟩
  · exact ⟨gap, split, rest⟩
  · cases gap with
    | nil => exact ⟨[], by simpa using split.symm, by simpa using rest.symm⟩
    | cons head gap =>
      cases drift with
      | nil => exact absurd rfl moved
      | cons start drift =>
        have inside : letters = drift ++ head :: gap := (List.cons.inj split).2
        have head_eq : separator = head := (List.cons.inj rest).1
        exact absurd (by simp [inside, head_eq]) absent

theorem IsLabel.places (isLabel : IsLabel separator label)
    (same : before ++ (label ++ after) = other ++ (label ++ word)) :
    before = other ∧ after = word ∨
      (∃ gap, other = before ++ (label ++ gap)) ∨ ∃ gap, before = other ++ (label ++ gap) := by
  rcases List.append_eq_append_iff.mp same with ⟨drift, rfl, rest⟩ | ⟨drift, rfl, rest⟩
  · by_cases moved : drift = []
    · subst moved
      exact .inl ⟨(List.append_nil _).symm, List.append_cancel_left rest⟩
    · obtain ⟨gap, rfl, -⟩ := isLabel.behind isLabel moved rest
      exact .inr (.inl ⟨gap, rfl⟩)
  · by_cases moved : drift = []
    · subst moved
      exact .inl ⟨List.append_nil _, (List.append_cancel_left rest).symm⟩
    · obtain ⟨gap, rfl, -⟩ := isLabel.behind isLabel moved rest
      exact .inr (.inr ⟨gap, rfl⟩)

theorem not_ahead (isLabel : IsLabel separator label) (absent : ¬label <:+: field)
    (labels : ∀ entry ∈ rest, IsLabel separator entry.1) (apart : Apart field rest)
    {next : List α} (names : more.map Prod.fst = rest.map Prod.fst) :
    joined field rest ≠ before ++ (label ++ joined next more) := by
  -- By induction on the labels: each of them would have to be ahead of itself.
  induction rest generalizing field label before next more with
  | nil =>
    intro same
    exact absent ⟨before, joined next more, by simpa [joined] using same.symm⟩
  | cons entry rest ih =>
    obtain ⟨own, last⟩ := entry
    cases more with
    | nil => cases names
    | cons other more =>
      obtain ⟨name, later⟩ := other
      obtain ⟨rfl, restNames⟩ := List.cons.inj names
      intro same
      obtain ⟨left, right, apart⟩ := apart
      have ownLabel : IsLabel separator name := labels _ List.mem_cons_self
      have aligned : field ++ (name ++ joined last rest)
          = (before ++ (label ++ next)) ++ (name ++ joined later more) := by
        simpa only [joined, List.append_assoc] using same
      rcases ownLabel.places aligned with ⟨rfl, -⟩ | ⟨gap, ahead⟩ | ⟨gap, rfl⟩
      · exact absent ⟨before, next, by simp⟩
      · -- The label of the text comes behind, and so does what follows it.
        rw [ahead, List.append_assoc, List.append_assoc] at aligned
        have tail := List.append_cancel_left (List.append_cancel_left aligned)
        exact ih ownLabel right
          (fun entry member => labels entry (List.mem_cons_of_mem _ member)) apart restNames tail
      · exact absent ⟨before, next ++ (name ++ gap), by simp⟩

theorem readOneWay_of_apart (labels : ∀ entry ∈ rest, IsLabel separator entry.1)
    (apart : Apart field rest) : ReadOneWay field rest := by
  -- By induction on the labels, by where the first one is read.
  induction rest generalizing field with
  | nil =>
    intro next more names same
    cases List.map_eq_nil_iff.mp names
    exact ⟨same, rfl⟩
  | cons entry rest ih =>
    obtain ⟨own, last⟩ := entry
    obtain ⟨left, right, apart⟩ := apart
    have ownLabel : IsLabel separator own := labels _ List.mem_cons_self
    have restLabels : ∀ entry ∈ rest, IsLabel separator entry.1 :=
      fun entry member => labels entry (List.mem_cons_of_mem _ member)
    intro next more names same
    cases more with
    | nil => cases names
    | cons other more =>
      obtain ⟨name, later⟩ := other
      obtain ⟨rfl, restNames⟩ := List.cons.inj names
      rcases ownLabel.places same with ⟨rfl, tail⟩ | ⟨gap, rfl⟩ | ⟨gap, rfl⟩
      · obtain ⟨rfl, rfl⟩ := ih restLabels apart later more restNames tail
        exact ⟨rfl, rfl⟩
      · exact absurd ⟨next, gap, by simp⟩ left
      · -- A first label that is read later leaves too little text for the others.
        simp only [joined, List.append_assoc] at same
        have tail := List.append_cancel_left (List.append_cancel_left same)
        exact absurd tail.symm (not_ahead ownLabel right restLabels apart restNames)

theorem apart_of_readOneWay (labels : ∀ entry ∈ rest, IsLabel separator entry.1)
    (unique : ReadOneWay field rest) : Apart field rest := by
  induction rest generalizing field with
  | nil => trivial
  | cons entry rest ih =>
    obtain ⟨own, last⟩ := entry
    have ownLabel : IsLabel separator own := labels _ List.mem_cons_self
    obtain ⟨letters, isOwn, -⟩ := ownLabel
    have long : own ≠ [] := isOwn ▸ List.cons_ne_nil _ _
    have restLabels : ∀ entry ∈ rest, IsLabel separator entry.1 :=
      fun entry member => labels entry (List.mem_cons_of_mem _ member)
    refine ⟨?left, ?right, ih restLabels ?rest⟩
    case left =>
      rintro ⟨before, after, rfl⟩
      have cut := (unique before ((own, after ++ (own ++ last)) :: rest) rfl (by
        simp only [joined, joined_append, List.append_assoc])).1
      rw [List.append_assoc] at cut
      exact long (List.append_eq_nil_iff.mp (List.self_eq_append_right.mp cut)).1
    case right =>
      rintro ⟨before, after, rfl⟩
      have cut := (unique (field ++ (own ++ before)) ((own, after) :: rest) rfl (by
        simp only [joined, joined_append, List.append_assoc])).1
      exact long (List.append_eq_nil_iff.mp (List.append_right_eq_self.mp cut)).1
    case rest =>
      intro next more names same
      obtain ⟨-, equal⟩ := unique field ((own, next) :: more) (by simp [names])
        (by simp only [joined, same])
      have parts := List.cons.inj equal
      exact ⟨(Prod.mk.inj parts.1).2, parts.2⟩

theorem readOneWay_iff_apart (labels : ∀ entry ∈ rest, IsLabel separator entry.1) :
    ReadOneWay field rest ↔ Apart field rest :=
  ⟨apart_of_readOneWay labels, readOneWay_of_apart labels⟩

end LabelledText
end NdtSlam
