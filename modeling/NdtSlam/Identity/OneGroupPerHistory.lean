import NdtSlam.Identity.PassRun

/-! Which frames associate every history with at most one group. -/

namespace NdtSlam

namespace GroupPass

section Places

variable (context : ObservationContext) (pass : GroupPass) (groups : List FramedGroup)
  [IdentityMath]

def routeAt (position : Nat) : Option GroupRoute :=
  (groups[position]?).map fun framed =>
    routeOf context framed (upTo context pass groups position).histories

def placeAt (position : Nat) : Option Nat :=
  (groups[position]?).bind fun framed => placeOf context framed (upTo context pass groups position)

def KeptApart : Prop :=
  ∀ position index, routeAt context pass groups position = some (.held index) →
    index < pass.histories.length ∧ ∀ other ≠ position,
      routeAt context pass groups other ≠ some (.matched index) ∧
        routeAt context pass groups other ≠ some (.held index)

def PlacedApart : Prop :=
  ∀ first second index, placeAt context pass groups first = some index →
    placeAt context pass groups second = some index → first = second

structure MatchedApart : Prop where
  known : ∀ framed ∈ groups, ∀ index, framed.association.verdict = .matched index →
    index < pass.histories.length
  injective : ∀ (first second : Nat) (one other : FramedGroup) index, groups[first]? = some one →
    groups[second]? = some other → one.association.verdict = .matched index →
      other.association.verdict = .matched index → first = second

variable {context pass groups} {position : Nat}

theorem routeAt_eq_some {route : GroupRoute} :
    routeAt context pass groups position = some route ↔ ∃ framed,
      groups[position]? = some framed ∧
        routeOf context framed (upTo context pass groups position).histories = route :=
  Option.map_eq_some_iff

variable {position index : Nat}

theorem placeAt_cases (placed : placeAt context pass groups position = some index) :
    routeAt context pass groups position = some (.matched index) ∨
      routeAt context pass groups position = some (.held index) ∨
      routeAt context pass groups position = some .created ∧
        index = (upTo context pass groups position).histories.length := by
  obtain ⟨framed, found, place⟩ := Option.bind_eq_some_iff.mp placed
  unfold placeOf at place
  unfold routeAt
  rw [found]
  cases routed : routeOf context framed (upTo context pass groups position).histories with
  | matched at' =>
    rw [routed] at place
    obtain rfl := Option.some.inj place
    exact .inl (by simp [routed])
  | held at' =>
    rw [routed] at place
    obtain rfl := Option.some.inj place
    exact .inr (.inl (by simp [routed]))
  | created =>
    rw [routed] at place
    exact .inr (.inr ⟨by simp [routed], (Option.some.inj place).symm⟩)
  | ambiguous => simp [routed] at place
  | skipped => simp [routed] at place
  | recoveryAmbiguous => simp [routed] at place
  | unsupported => simp [routed] at place

theorem placeAt_matched (routed : routeAt context pass groups position = some (.matched index)) :
    placeAt context pass groups position = some index := by
  obtain ⟨framed, found, route⟩ := routeAt_eq_some.1 routed
  simp [placeAt, found, placeOf, route]

theorem placeAt_held (routed : routeAt context pass groups position = some (.held index)) :
    placeAt context pass groups position = some index := by
  obtain ⟨framed, found, route⟩ := routeAt_eq_some.1 routed
  simp [placeAt, found, placeOf, route]

theorem placeAt_created (routed : routeAt context pass groups position = some .created) :
    placeAt context pass groups position =
      some (upTo context pass groups position).histories.length := by
  obtain ⟨framed, found, route⟩ := routeAt_eq_some.1 routed
  simp [placeAt, found, placeOf, route]

theorem upTo_ids_succ {framed : FramedGroup} (found : groups[position]? = some framed) :
    History.idsOf (upTo context pass groups (position + 1)).histories =
      History.idsOf (upTo context pass groups position).histories ++
        if routeAt context pass groups position = some .created then
          [(upTo context pass groups position).nextHistoryId] else [] := by
  rw [upTo_succ found, step_ids.1]
  simp [routeAt, found]

theorem upTo_of_le {count : Nat} (beyond : groups.length ≤ count) :
    upTo context pass groups count = pass.through context groups := by
  unfold upTo
  rw [List.take_of_length_le beyond]

variable {first second : Nat}

theorem upTo_ids_grow (ordered : first ≤ second) :
    History.idsOf (upTo context pass groups first).histories <+:
      History.idsOf (upTo context pass groups second).histories := by
  -- The second position moves forward by one group at a time.
  induction second with
  | zero =>
    obtain rfl := Nat.le_zero.mp ordered
    exact List.prefix_rfl
  | succ second ih =>
    rcases Nat.lt_or_ge first (second + 1) with before | after
    · refine (ih (Nat.le_of_lt_succ before)).trans ?_
      by_cases within : second < groups.length
      · rw [upTo_ids_succ (List.getElem?_eq_getElem within)]
        exact List.prefix_append _ _
      · have full := Nat.not_lt.mp within
        simp only [upTo_of_le full, upTo_of_le (Nat.le_succ_of_le full), List.prefix_rfl]
    · obtain rfl := Nat.le_antisymm ordered after
      exact List.prefix_rfl

theorem upTo_length_mono (ordered : first ≤ second) :
    (upTo context pass groups first).histories.length ≤
      (upTo context pass groups second).histories.length := by
  have longer := (@upTo_ids_grow context pass groups _ first second ordered).length_le
  simpa [History.idsOf] using longer

theorem placeAt_lt (apart : MatchedApart pass groups)
    (placed : placeAt context pass groups position = some index) :
    index < (upTo context pass groups (position + 1)).histories.length := by
  have grown := @upTo_length_mono context pass groups _ 0 (position + 1) (Nat.zero_le _)
  rcases placeAt_cases placed with matched | held | ⟨created, rfl⟩
  · obtain ⟨framed, found, routed⟩ := routeAt_eq_some.1 matched
    have known := apart.known framed (List.mem_of_getElem? found) index (verdict_of_routeOf routed)
    exact Nat.lt_of_lt_of_le known grown
  · obtain ⟨framed, found, routed⟩ := routeAt_eq_some.1 held
    exact Nat.lt_of_lt_of_le (held_lt routed) (upTo_length_mono (Nat.le_succ position))
  · obtain ⟨framed, found, routed⟩ := routeAt_eq_some.1 created
    have lengths := congrArg List.length (@upTo_ids_succ context pass groups _ position framed
      found)
    rw [if_pos created] at lengths
    simp only [History.idsOf, List.length_map, List.length_append, List.length_singleton]
      at lengths
    omega

theorem created_lt (ordered : first < second)
    (created : routeAt context pass groups first = some .created) :
    (upTo context pass groups first).histories.length <
      (upTo context pass groups second).histories.length := by
  obtain ⟨framed, found, -⟩ := routeAt_eq_some.1 created
  have lengths := congrArg List.length (@upTo_ids_succ context pass groups _ first framed found)
  rw [if_pos created] at lengths
  simp only [History.idsOf, List.length_map, List.length_append, List.length_singleton] at lengths
  have grown := @upTo_length_mono context pass groups _ (first + 1) second ordered
  omega

theorem exists_created (later : pass.histories.length ≤ index)
    (known : index < (upTo context pass groups position).histories.length) :
    ∃ earlier < position, routeAt context pass groups earlier = some .created ∧
      (upTo context pass groups earlier).histories.length = index := by
  -- Going back from the position, the history appears at the group that created it.
  induction position with
  | zero => exact absurd known (Nat.not_lt.mpr later)
  | succ position ih =>
    by_cases before : index < (upTo context pass groups position).histories.length
    · obtain ⟨earlier, ordered, created, same⟩ := ih before
      exact ⟨earlier, Nat.lt_succ_of_lt ordered, created, same⟩
    · by_cases within : position < groups.length
      · have lengths := congrArg List.length (@upTo_ids_succ context pass groups _ position _
          (List.getElem?_eq_getElem within))
        simp only [History.idsOf, List.length_map, List.length_append] at lengths
        by_cases created : routeAt context pass groups position = some .created
        · rw [if_pos created, List.length_singleton] at lengths
          exact ⟨position, Nat.lt_succ_self _, created, by omega⟩
        · rw [if_neg created, List.length_nil] at lengths
          omega
      · rw [upTo_of_le (by omega)] at known
        rw [upTo_of_le (by omega)] at before
        exact absurd known before

theorem keptApart_of_placedApart (placedApart : PlacedApart context pass groups) :
    KeptApart context pass groups := by
  intro position index held
  have placed := placeAt_held held
  refine ⟨?_, ?_⟩
  · by_contra outside
    -- A history that the frame created already has the group that created it.
    obtain ⟨framed, found, routed⟩ := routeAt_eq_some.1 held
    obtain ⟨earlier, ordered, created, same⟩ := exists_created (Nat.not_lt.mp outside)
      (held_lt routed)
    have shared := placedApart earlier position index (by rw [placeAt_created created, same])
      placed
    omega
  · intro other different
    refine ⟨fun matched => ?_, fun also => ?_⟩
    · exact different (placedApart other position index (placeAt_matched matched) placed)
    · exact different (placedApart other position index (placeAt_held also) placed)

theorem placedApart_of_keptApart (apart : MatchedApart pass groups)
    (keptApart : KeptApart context pass groups) : PlacedApart context pass groups := by
  intro first second index one other
  by_contra different
  have grown (position : Nat) := @upTo_length_mono context pass groups _ 0 position
    (Nat.zero_le _)
  have old {position : Nat} (matched : routeAt context pass groups position =
      some (.matched index)) : index < pass.histories.length := by
    obtain ⟨framed, found, routed⟩ := routeAt_eq_some.1 matched
    exact apart.known framed (List.mem_of_getElem? found) index (verdict_of_routeOf routed)
  -- Matches are apart by themselves, new histories lie behind all others, and holds are kept apart.
  rcases placeAt_cases one with matched | held | ⟨created, place⟩
  · rcases placeAt_cases other with also | held | ⟨created, place⟩
    · obtain ⟨framed, found, routed⟩ := routeAt_eq_some.1 matched
      obtain ⟨framed', found', routed'⟩ := routeAt_eq_some.1 also
      exact different (apart.injective first second framed framed' index found found'
        (verdict_of_routeOf routed) (verdict_of_routeOf routed'))
    · exact ((keptApart second index held).2 first different).1 matched
    · have known := old matched
      have behind := grown second
      rw [upTo_zero] at behind
      omega
  · obtain ⟨known, alone⟩ := keptApart first index held
    obtain ⟨notMatched, notHeld⟩ := alone second (Ne.symm different)
    rcases placeAt_cases other with also | also | ⟨created, place⟩
    · exact notMatched also
    · exact notHeld also
    · have behind := grown second
      rw [upTo_zero] at behind
      omega
  · have behind := grown first
    rw [upTo_zero] at behind
    rcases placeAt_cases other with matched | held | ⟨also, place'⟩
    · have known := old matched
      omega
    · have known := (keptApart second index held).1
      omega
    · rcases Nat.lt_or_gt_of_ne different with before | after
      · have later := created_lt before created
        omega
      · have later := created_lt after also
        omega

theorem upTo_diagnostics (apart : MatchedApart pass groups) (fresh : pass.diagnostics = []) :
    ∀ count ≤ groups.length, (upTo context pass groups count).diagnostics.length = count ∧
      ∀ position < count,
        ((upTo context pass groups count).diagnostics[position]?).bind (·.matchedHistoryId) =
          (placeAt context pass groups position).bind fun index =>
            (History.idsOf (upTo context pass groups count).histories)[index]? := by
  intro count
  induction count with
  | zero => exact fun _ => ⟨by simp [fresh], fun position absurd => by omega⟩
  | succ count ih =>
    intro within
    obtain ⟨length, named⟩ := ih (Nat.le_of_succ_le within)
    have found : groups[count]? = some groups[count] := List.getElem?_eq_getElem within
    obtain ⟨diagnostic, noted, matched⟩ :=
      @step_diagnostics context groups[count] (upTo context pass groups count) _
    rw [← upTo_succ found] at noted matched
    refine ⟨by rw [noted]; simp [length], ?_⟩
    intro position before
    rw [noted]
    rcases Nat.lt_or_ge position count with earlier | last
    · rw [List.getElem?_append_left (by omega), named position earlier]
      -- The ids of the places that were known before stay where they are.
      cases placed : placeAt context pass groups position with
      | none => rfl
      | some index =>
        have known := Nat.lt_of_lt_of_le (placeAt_lt apart placed)
          (upTo_length_mono (show position + 1 ≤ count by omega))
        obtain ⟨added, grown⟩ :=
          @upTo_ids_grow context pass groups _ count (count + 1) (Nat.le_succ count)
        simp only [Option.bind_some]
        rw [← grown, List.getElem?_append_left (by simpa [History.idsOf] using known)]
    · obtain rfl : position = count := by omega
      rw [List.getElem?_append_right (by omega)]
      simp [length, matched, placeAt, found]

def Numbered (histories : List History) (nextHistoryId : Nat) : Prop :=
  (History.idsOf histories).Nodup ∧ ∀ id ∈ History.idsOf histories, id < nextHistoryId

theorem through_numbered (numbered : Numbered pass.histories pass.nextHistoryId) :
    Numbered (pass.through context groups).histories
      (pass.through context groups).nextHistoryId := by
  refine through_invariant (fun pass => Numbered pass.histories pass.nextHistoryId) numbered ?_
  rintro framed - before ⟨distinct, below⟩
  obtain ⟨ids, next⟩ := @step_ids context framed before _
  unfold Numbered
  rw [ids, next]
  by_cases created : routeOf context framed before.histories = .created
  · rw [if_pos created, if_pos created]
    refine ⟨?_, ?_⟩
    · refine List.nodup_append.mpr ⟨distinct, by simp, ?_⟩
      intro id member other same
      obtain rfl := List.mem_singleton.mp same
      exact Nat.ne_of_lt (below id member)
    · intro id member
      rcases List.mem_append.mp member with old | new
      · exact Nat.lt_succ_of_lt (below id old)
      · obtain rfl := List.mem_singleton.mp new
        exact Nat.lt_succ_self _
  · rw [if_neg created, if_neg created, List.append_nil]
    exact ⟨distinct, below⟩

def AssociatedApart (diagnostics : List CargoPhysicalGroupDiagnostic) : Prop :=
  ∀ first second id : Nat, (diagnostics[first]?).bind (·.matchedHistoryId) = some id →
    (diagnostics[second]?).bind (·.matchedHistoryId) = some id → first = second

theorem placeAt_position_lt (placed : placeAt context pass groups position = some index) :
    position < groups.length := by
  obtain ⟨framed, found, -⟩ := Option.bind_eq_some_iff.mp placed
  exact (List.getElem?_eq_some_iff.mp found).1

theorem associatedApart_iff (apart : MatchedApart pass groups) (fresh : pass.diagnostics = [])
    (numbered : Numbered pass.histories pass.nextHistoryId) :
    AssociatedApart (pass.through context groups).diagnostics ↔
      PlacedApart context pass groups := by
  obtain ⟨length, named⟩ := @upTo_diagnostics context pass groups _ apart fresh groups.length
    (Nat.le_refl _)
  rw [upTo_length] at length named
  have distinct := (@through_numbered context pass groups _ numbered).1
  have knownId {position index : Nat} (placed : placeAt context pass groups position =
      some index) : index < (History.idsOf (pass.through context groups).histories).length := by
    have known := Nat.lt_of_lt_of_le (placeAt_lt apart placed)
      (upTo_length_mono (placeAt_position_lt placed))
    rw [upTo_length] at known
    simpa [History.idsOf] using known
  constructor
  · intro apartIds first second index one other
    -- Both groups are named by the id of the history.
    have sameId {position : Nat} (placed : placeAt context pass groups position = some index) :
        ((pass.through context groups).diagnostics[position]?).bind (·.matchedHistoryId) =
          (History.idsOf (pass.through context groups).histories)[index]? := by
      rw [named position (placeAt_position_lt placed), placed]
      rfl
    have listed := List.getElem?_eq_getElem (knownId one)
    exact apartIds first second _ ((sameId one).trans listed) ((sameId other).trans listed)
  · intro apartPlaces first second id one other
    have place {position : Nat}
        (noted : ((pass.through context groups).diagnostics[position]?).bind
          (·.matchedHistoryId) = some id) :
        ∃ index, placeAt context pass groups position = some index ∧
          (History.idsOf (pass.through context groups).histories)[index]? = some id := by
      obtain ⟨diagnostic, found, -⟩ := Option.bind_eq_some_iff.mp noted
      have within := (List.getElem?_eq_some_iff.mp found).1
      rw [named position (by omega)] at noted
      exact Option.bind_eq_some_iff.mp noted
    obtain ⟨index, firstPlaced, firstId⟩ := place one
    obtain ⟨index', secondPlaced, secondId⟩ := place other
    obtain ⟨known, firstSame⟩ := List.getElem?_eq_some_iff.mp firstId
    obtain ⟨known', secondSame⟩ := List.getElem?_eq_some_iff.mp secondId
    obtain rfl := (List.Nodup.getElem_inj_iff distinct).mp (firstSame.trans secondSame.symm)
    exact apartPlaces first second index firstPlaced secondPlaced

end Places

end GroupPass

namespace SelectedIdentity

structure ShowsGroup (selected : SelectedIdentity) (group : CargoPhysicalGroupObservation) :
    Prop where
  frameGroup : selected.frameGroupId = group.frameGroupId
  verticalMode : selected.currentVerticalMode = group.descriptor.verticalMode
  resolved : selected.geometryResolved = (group.descriptor.verticalMode == .supportedEvidence &&
    (group.geometryResolved && !group.groupAmbiguous))
  candidate : selected.resolvedCandidateId =
    if selected.geometryResolved then group.representative.candidateId else 0
  members : selected.resolvedMemberComponentIds =
    if selected.geometryResolved then group.representative.memberComponentIds else []

end SelectedIdentity

namespace CargoPhysicalIdentityAuthority

open GroupPass

section Frames

variable [IdentityMath] (self : CargoPhysicalIdentityAuthority)
  (input : CargoPhysicalIdentityInput)

def KeepsApart : Prop :=
  KeptApart (self.observationContext input) (self.passStart input) (self.framed input)

/-- A validated decision shows the geometry of the group that its history is matched with. -/
def ShowsMatchedGroup (input : CargoPhysicalIdentityInput)
    (decision : CargoPhysicalIdentityDecision) : Prop :=
  ∀ (position : Nat) group diagnostic, input.groups[position]? = some group →
    decision.groupDiagnostics[position]? = some diagnostic → decision.identity = .validated →
      diagnostic.association = .matched →
        diagnostic.matchedHistoryId = some decision.selected.physicalHistoryId →
          decision.selected.ShowsGroup group

variable {self input}

theorem framed_getElem {position : Nat} {framed : FramedGroup}
    (found : (self.framed input)[position]? = some framed) :
    position < input.groups.length ∧ framed.association =
      associate self.config input (self.entered input).histories position := by
  unfold CargoPhysicalIdentityAuthority.framed framedGroups at found
  rw [List.getElem?_map] at found
  obtain ⟨⟨group, index⟩, listed, rfl⟩ := Option.map_eq_some_iff.mp found
  rw [List.getElem?_zipIdx] at listed
  obtain ⟨group', known, pair⟩ := Option.map_eq_some_iff.mp listed
  obtain ⟨-, rfl⟩ := Prod.mk.inj pair
  refine ⟨(List.getElem?_eq_some_iff.mp known).1, ?_⟩
  simp

theorem framed_matchedApart : MatchedApart (self.passStart input) (self.framed input) where
  known framed member index verdict := by
    obtain ⟨position, found⟩ := List.getElem?_of_mem member
    rw [(framed_getElem found).2] at verdict
    exact associate_known verdict
  injective first second one other index firstFound secondFound firstVerdict secondVerdict := by
    obtain ⟨firstKnown, firstAssociation⟩ := framed_getElem firstFound
    obtain ⟨secondKnown, secondAssociation⟩ := framed_getElem secondFound
    rw [firstAssociation] at firstVerdict
    rw [secondAssociation] at secondVerdict
    exact associate_injective firstKnown secondKnown firstVerdict secondVerdict

theorem identification_validated {pass : GroupPass}
    (validated : (self.identification input pass).1 = .validated) :
    ∃ history ∈ pass.histories, (self.identification input pass).2.1 =
      selectIdentity self.config input pass.diagnostics history := by
  unfold identification identify at validated ⊢
  -- Only the branch that finds the validated history decides so.
  split at validated
  · cases validated
  · split at validated
    · cases validated
    · split at validated
      · rename_i started undecided chosen
        rw [if_neg started, if_neg undecided, if_pos chosen]
        split at validated
        · cases validated
        · rename_i history found
          exact ⟨history, List.mem_of_mem_filter (List.mem_of_getLast? found), rfl⟩
      · cases validated

theorem showsMatchedGroup_of_apart
    (apart : AssociatedApart (self.decisionOf input).groupDiagnostics) :
    ShowsMatchedGroup input (self.decisionOf input) := by
  intro position group diagnostic known noted validated _ named
  obtain ⟨history, -, selected⟩ := identification_validated validated
  have chosen : (self.decisionOf input).selected =
      selectIdentity self.config input (self.decisionOf input).groupDiagnostics history := selected
  rw [chosen] at named ⊢
  have matched : diagnostic.matchedHistoryId = some history.id := named
  -- The first group that is associated with the history is the only one.
  have current : currentGroup input (self.decisionOf input).groupDiagnostics history.id =
      some (group, diagnostic) := by
    unfold currentGroup
    have listed : (input.groups.zip (self.decisionOf input).groupDiagnostics)[position]? =
        some (group, diagnostic) := by
      rw [List.getElem?_zip_eq_some]
      exact ⟨known, noted⟩
    generalize found : List.find? _ _ = selection
    cases selection with
    | none =>
      have refused := List.find?_eq_none.mp found _ (List.mem_of_getElem? listed)
      simp [matched] at refused
    | some pair =>
      obtain ⟨group', diagnostic'⟩ := pair
      have named' := List.find?_some found
      obtain ⟨position', listed'⟩ := List.getElem?_of_mem (List.mem_of_find?_eq_some found)
      obtain ⟨-, noted'⟩ := List.getElem?_zip_eq_some.mp listed'
      have same : position' = position := apart position' position history.id
        (by rw [noted']; simpa using named') (by rw [noted]; exact matched)
      rw [same, listed] at listed'
      exact listed'.symm
  exact {
    frameGroup := by simp [selectIdentity, current]
    verticalMode := by simp [selectIdentity, current]
    resolved := by simp [selectIdentity, current]
    candidate := by simp [selectIdentity, current]
    members := by simp [selectIdentity, current] }

end Frames

section Runs

variable [IdentityMath] {config : CargoPhysicalIdentityConfig} {input : CargoPhysicalIdentityInput}

theorem historiesAfterFrame_ids {lock : DiagnosticSurfaceReferenceLock}
    {config : CargoPhysicalIdentityConfig} {groupHistoryIds : List (Option Nat)}
    {histories : List History} :
    History.idsOf (lock.historiesAfterFrame config input groupHistoryIds histories) =
      History.idsOf histories := by
  unfold DiagnosticSurfaceReferenceLock.historiesAfterFrame
    DiagnosticSurfaceReferenceLock.projectOnto
  split
  · split
    · rfl
    · -- Each history keeps its id, whether the lift belongs to it or not.
      unfold History.idsOf
      rw [List.map_map]
      apply List.map_congr_left
      intro history _
      simp only [Function.comp, DiagnosticSurfaceReferenceLock.projected]
      split
      · rfl
      · split
        · rfl
        · rfl
  · rfl

omit [IdentityMath] in
theorem entered_numbered {self : CargoPhysicalIdentityAuthority}
    (numbered : Numbered self.histories self.nextHistoryId) :
    Numbered (self.entered input).histories (self.entered input).nextHistoryId := by
  rw [entered_histories, entered_nextHistoryId]
  split
  · exact ⟨List.nodup_nil, fun id member => by simp [History.idsOf] at member⟩
  · split
    · -- Starting the lifts anew leaves the ids alone.
      have same : History.idsOf (self.histories.map historyAtLoadEdge) =
          History.idsOf self.histories := by
        unfold History.idsOf
        rw [List.map_map]
        apply List.map_congr_left
        intro history _
        simp only [Function.comp, historyAtLoadEdge]
        split
        · rfl
        · rfl
      exact ⟨same ▸ numbered.1, same ▸ numbered.2⟩
    · exact numbered

theorem run_numbered (calls : List Call) : Numbered ((machine config).run calls).histories
    ((machine config).run calls).nextHistoryId := by
  have nothing : Numbered [] 1 := ⟨List.nodup_nil, fun id member => by
    simp [History.idsOf] at member⟩
  induction calls with
  | nil => exact nothing
  | cons call older ih =>
    have stepped : (machine config).run (call :: older) =
        ((machine config).step ((machine config).run older) call).1 := rfl
    rw [stepped]
    generalize (machine config).run older = self at ih
    cases call with
    | reset => exact nothing
    | update input =>
      by_cases accepted : self.stampValid input = true
      · have advances : ((machine config).step self (.update input)).1 = self.advanced input :=
          congrArg Prod.fst (if_pos accepted)
        rw [advances]
        have through : Numbered (self.passed input).histories (self.passed input).nextHistoryId :=
          through_numbered (entered_numbered ih)
        have same : History.idsOf (self.advanced input).histories =
            History.idsOf (self.passed input).histories := historiesAfterFrame_ids
        unfold Numbered
        rw [same]
        exact through
      · have refused : ((machine config).step self (.update input)).1 = self.rolledBack input :=
          congrArg Prod.fst (if_neg accepted)
        rw [refused]
        unfold rolledBack
        split
        · exact ⟨List.nodup_nil, fun id member => by simp [History.idsOf] at member⟩
        · exact ih

def Retires (id : Nat) (self : CargoPhysicalIdentityAuthority) : Prop :=
  Retired id self.nextHistoryId (History.idsOf self.histories)

theorem through_retires {id : Nat} {context : ObservationContext} {pass : GroupPass}
    {groups : List FramedGroup}
    (retired : Retired id pass.nextHistoryId (History.idsOf pass.histories)) :
    Retired id (pass.through context groups).nextHistoryId
      (History.idsOf (pass.through context groups).histories) := by
  refine through_invariant (fun pass =>
    Retired id pass.nextHistoryId (History.idsOf pass.histories)) retired ?_
  intro framed _ before retired
  obtain ⟨ids, next⟩ := @step_ids context framed before _
  rw [ids, next]
  exact retired.grow

theorem update_retires {id : Nat} {self : CargoPhysicalIdentityAuthority}
    (retires : self.Retires id) : (self.update input).1.Retires id := by
  by_cases accepted : self.stampValid input = true
  · have advances : (self.update input).1 = self.advanced input :=
      congrArg Prod.fst (if_pos accepted)
    have entered : (self.entered input).Retires id := by
      -- The histories are forgotten, or stay with their ids.
      unfold Retires
      rw [entered_histories, entered_nextHistoryId]
      split_ifs
      · exact ⟨retires.1, List.not_mem_nil⟩
      · refine ⟨retires.1, fun member => retires.2 ?_⟩
        simpa [History.idsOf, historyAtLoadEdge, History.closePrelift, apply_ite History.id]
          using member
      · exact retires
    have same : History.idsOf (self.advanced input).histories =
        History.idsOf (self.passed input).histories := historiesAfterFrame_ids
    rw [advances]
    unfold Retires
    rw [same]
    exact through_retires entered
  · have refused : (self.update input).1 = self.rolledBack input :=
      congrArg Prod.fst (if_neg accepted)
    rw [refused]
    unfold rolledBack
    split
    · exact ⟨retires.1, List.not_mem_nil⟩
    · exact retires

/-- Until a reset, the id of a history that is forgotten never names another history. -/
theorem historyId_never_reused (config : CargoPhysicalIdentityConfig) {newer older : List Call}
    {id : Nat} (noReset : ¬(machine config).During (fun _ call => call = .reset) newer older)
    (gone : ((machine config).run older).Retires id) :
    ((machine config).run (newer ++ older)).Retires id := by
  refine @Machine.run_carried _ _ _ (machine config) (Retires id) _ ?_ _ _ noReset gone
  intro self call other retires
  cases call with
  | reset => exact absurd rfl other
  | update input => exact update_retires retires

end Runs

section Samples

def squareGroup (frameGroupId : Nat) (stampSec z : Scalar) (mode : CargoGroupVerticalMode) :
    CargoPhysicalGroupObservation where
  frameGroupId
  memberComponentIds := [frameGroupId]
  geometryResolved := true
  representative := { candidateId := frameGroupId, size := ⟨2, 2, 1⟩ }
  descriptor := {
    valid := true
    stampSec
    stableAnchor := ⟨0, 0, z⟩
    aggregateExtent := ⟨2, 2, 1⟩
    robustX05 := -1
    robustX95 := 1
    robustY05 := -1
    robustY95 := 1
    robustXyExtent := ⟨2, 2⟩
    aggregatePointSupport := 1
    verticalMode := mode
    physicalVerticalZ := z
    verticalUncertaintyM := 0 }

def weighedFrame (stampSec : Scalar) (gravityState : HookLoadState)
    (groups : List CargoPhysicalGroupObservation) : CargoPhysicalIdentityInput where
  pipelineStampSec := stampSec
  lifecycleId := 1
  gravityValid := true
  gravityState
  groups

attribute [local semireducible] Rat.add Rat.sub Rat.mul Rat.inv Rat.ofScientific

theorem rolledBack_history_retired :
    let older : List Call := [.update (weighedFrame 0.5 .loaded []),
      .update (weighedFrame 1 .loaded [squareGroup 1 1 1 .supportedEvidence])]
    let later : Call := .update (weighedFrame 2 .loaded [squareGroup 1 2 1 .supportedEvidence])
    ((@machine axisMath {}).run ([later] ++ older)).Retires 1 := by
  intro older later
  refine @historyId_never_reused axisMath {} [later] older 1 ?_
    ⟨by decide, by decide⟩
  rw [Machine.during_cons, not_or]
  exact ⟨nofun, Machine.not_during_nil _⟩

end Samples

end CargoPhysicalIdentityAuthority

end NdtSlam
