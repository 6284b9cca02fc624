import Mathlib.Data.Rat.Denumerable
import NdtSlam.Foundation.LabelledText
import NdtSlam.Localization.Relocalization

/-! Which headings of the rail, and which registration targets, are alone with the text that stands
for them. -/

namespace NdtSlam

open LabelledText

/-! ### The parts of a text -/

/-- A way to write finite numbers that never writes two alike and does without semicolons. -/
structure DecimalPrinting (decimal : Scalar → String) : Prop where
  injective : ∀ {left right : ℚ}, decimal (.fin left) = decimal (.fin right) → left = right
  unseparated : ∀ value : ℚ, ';' ∉ (decimal (.fin value)).toList

theorem toString_nat_injective {left right : Nat} (same : toString left = toString right) :
    left = right := by
  have read : ∀ value : Nat, Nat.ofDigitChars 10 (toString value).toList 0 = value := by
    intro value
    rw [show (toString value).toList = Nat.toDigits 10 value from Nat.toList_repr,
      Nat.ofDigitChars_ten_toDigits]
  rw [← read left, same, read]

theorem semicolon_not_mem_toString (value : Nat) : ';' ∉ (toString value).toList := by
  intro member
  have digits : (toString value).toList = Nat.toDigits 10 value := Nat.toList_repr
  rw [digits] at member
  exact absurd (Nat.isDigit_of_mem_toDigits (by decide) (by decide) member) (by decide)

theorem turns_of_normalizeAngle_eq {left right : ℚ}
    (same : normalizeAngle (.fin left) = normalizeAngle (.fin right)) :
    ∃ turns : ℤ, Scalar.fin left = .fin right + .fin (2 * mPi * turns) := by
  -- Both are as many turns away from the normalized angle as their normalization takes.
  simp only [normalizeAngle, Scalar.fin.injEq] at same
  refine ⟨⌈(left - mPi) / (2 * mPi)⌉ - ⌈(right - mPi) / (2 * mPi)⌉, ?_⟩
  show Scalar.fin left = .fin (right + _)
  rw [Scalar.fin.injEq]
  push_cast
  linarith

/-! ### References -/

namespace RailYawReference

variable {decimal : Scalar → String} {reference other : RailYawReference}

def formatHeading (decimal : Scalar → String) (yaw : Scalar) : String :=
  decimal (normalizeAngle yaw)

def PassesFieldChecks (decimal : Scalar → String) (reference : RailYawReference) : Prop :=
  { reference with
    referenceHash := reference.semanticYawReferenceHash (formatHeading decimal)
  }.validateRailYawReference (formatHeading decimal) = .ok ()

/-- Two references agree in everything that is written, the headings up to full turns. -/
structure SameIdentity (reference other : RailYawReference) : Prop where
  schemaVersion : reference.schemaVersion = other.schemaVersion
  verified : reference.verified = other.verified
  heading : ∃ turns : ℤ,
    reference.railYawInMapRad = other.railYawInMapRad + .fin (2 * mPi * turns)
  source : reference.source = other.source
  mapFrameUuid : reference.mapFrameUuid = other.mapFrameUuid
  mapFrameId : reference.mapFrameId = other.mapFrameId
  baseFrameId : reference.baseFrameId = other.baseFrameId
  mapFrameConventionId : reference.mapFrameConventionId = other.mapFrameConventionId
  sensorRigCalibrationId : reference.sensorRigCalibrationId = other.sensorRigCalibrationId
  referenceUuid : reference.referenceUuid = other.referenceUuid

section

variable (reference : RailYawReference)

def labelledFields : List (List Char × List Char) :=
  [(";map_frame_id=".toList, reference.mapFrameId.toList),
    (";base_frame_id=".toList, reference.baseFrameId.toList),
    (";convention=".toList, reference.mapFrameConventionId.toList),
    (";sensor_rig=".toList, reference.sensorRigCalibrationId.toList)]

def innerFields : List (List Char × List Char) :=
  reference.labelledFields ++
    [(";reference_uuid=".toList, reference.referenceUuid.toList.dropLast)]

/-- No field contains a label that it is written next to, but for one with nothing before it in
the first field and one with nothing behind it in the last. -/
def Unmistakable : Prop :=
  Apart reference.mapFrameUuid.toList.tail reference.innerFields

def fieldText : List Char :=
  joined reference.mapFrameUuid.toList (reference.labelledFields ++
    [(";reference_uuid=".toList, reference.referenceUuid.toList)])

end

theorem passesFieldChecks_iff :
    reference.PassesFieldChecks decimal ↔
      reference.schemaVersion = 1 ∧ reference.verified = true ∧
        reference.railYawInMapRad.isFinite = true ∧
        reference.mapFrameUuid ≠ "" ∧ reference.referenceUuid ≠ "" := by
  unfold PassesFieldChecks
  rw [validate_eq_ok]
  constructor
  · rintro ⟨schema, verified, finite, named, -⟩
    exact ⟨schema, verified, finite, named⟩
  · rintro ⟨schema, verified, finite, named⟩
    exact ⟨schema, verified, finite, named, rfl⟩

theorem canonicalReference_toList (passes : reference.PassesFieldChecks decimal) :
    (reference.canonicalReference (formatHeading decimal)).toList =
      "schema=1;verified=1;yaw=".toList ++
        ((formatHeading decimal reference.railYawInMapRad).toList ++ ';' :: ("source=".toList ++
          ((yawReferenceSourceName reference.source).toList ++
            ';' :: ("map_frame_uuid=".toList ++ reference.fieldText)))) := by
  obtain ⟨schema, verified, -⟩ := passesFieldChecks_iff.1 passes
  have start : "schema=" ++ toString 1 ++ ";verified=" ++ "1" ++ ";yaw="
      = "schema=1;verified=1;yaw=" := by decide
  have source : ";source=".toList = ';' :: "source=".toList := by decide
  have frame : ";map_frame_uuid=".toList = ';' :: "map_frame_uuid=".toList := by decide
  unfold canonicalReference fieldText labelledFields
  rw [schema, verified, if_pos rfl, start]
  simp only [String.toList_append, List.append_assoc, joined, List.cons_append, List.nil_append,
    source, frame]

theorem semicolon_not_mem_source (source : YawReferenceSource) :
    ';' ∉ (yawReferenceSourceName source).toList := by
  cases source <;> decide

theorem yawReferenceSourceName_injective {left right : YawReferenceSource}
    (same : yawReferenceSourceName left = yawReferenceSourceName right) : left = right := by
  have found := yawReferenceSourceFromName_name left
  rw [same, yawReferenceSourceFromName_name] at found
  exact (Option.some.inj found).symm

theorem canonicalReference_eq_iff (printing : DecimalPrinting decimal)
    (passes : reference.PassesFieldChecks decimal) (valid : other.PassesFieldChecks decimal) :
    reference.canonicalReference (formatHeading decimal)
        = other.canonicalReference (formatHeading decimal) ↔
      normalizeAngle reference.railYawInMapRad = normalizeAngle other.railYawInMapRad ∧
        reference.source = other.source ∧ reference.fieldText = other.fieldText := by
  -- Neither the heading nor the source contains the semicolon that ends it.
  obtain ⟨-, -, finite, -⟩ := passesFieldChecks_iff.1 passes
  obtain ⟨-, -, bounded, -⟩ := passesFieldChecks_iff.1 valid
  obtain ⟨yaw, isYaw⟩ := Scalar.isFinite_iff.1 finite
  obtain ⟨angle, isAngle⟩ := Scalar.isFinite_iff.1 bounded
  obtain ⟨left, leftNormal, -⟩ := normalizeAngle_fin yaw
  obtain ⟨right, rightNormal, -⟩ := normalizeAngle_fin angle
  rw [← String.toList_inj, canonicalReference_toList passes, canonicalReference_toList valid]
  simp only [formatHeading, isYaw, isAngle, leftNormal, rightNormal]
  constructor
  · intro same
    obtain ⟨headings, rest⟩ := eq_of_separator (printing.unseparated left)
      (printing.unseparated right) (List.append_cancel_left same)
    obtain ⟨sources, fields⟩ := eq_of_separator (semicolon_not_mem_source _)
      (semicolon_not_mem_source _) (List.append_cancel_left rest)
    exact ⟨congrArg Scalar.fin (printing.injective (String.toList_inj.mp headings)),
      yawReferenceSourceName_injective (String.toList_inj.mp sources),
      List.append_cancel_left fields⟩
  · rintro ⟨headings, sources, fields⟩
    rw [headings, sources, fields]

theorem isLabel_toList {label word : String} (split : label.toList = ';' :: word.toList)
    (absent : ';' ∉ word.toList) : IsLabel ';' label.toList :=
  ⟨word.toList, split, absent⟩

theorem isLabel_innerFields : ∀ entry ∈ reference.innerFields, IsLabel ';' entry.1 := by
  intro entry member
  simp only [innerFields, labelledFields, List.cons_append, List.nil_append, List.mem_cons,
    List.not_mem_nil, or_false] at member
  rcases member with rfl | rfl | rfl | rfl | rfl
  · exact @isLabel_toList ";map_frame_id=" "map_frame_id=" (by decide) (by decide)
  · exact @isLabel_toList ";base_frame_id=" "base_frame_id=" (by decide) (by decide)
  · exact @isLabel_toList ";convention=" "convention=" (by decide) (by decide)
  · exact @isLabel_toList ";sensor_rig=" "sensor_rig=" (by decide) (by decide)
  · exact @isLabel_toList ";reference_uuid=" "reference_uuid=" (by decide) (by decide)

theorem fieldText_trimmed (passes : reference.PassesFieldChecks decimal) :
    ∃ first last, reference.mapFrameUuid.toList = first :: reference.mapFrameUuid.toList.tail ∧
      reference.referenceUuid.toList = reference.referenceUuid.toList.dropLast ++ [last] ∧
      reference.fieldText =
        first :: (joined reference.mapFrameUuid.toList.tail reference.innerFields ++ [last]) := by
  obtain ⟨-, -, -, framed, identified⟩ := passesFieldChecks_iff.1 passes
  have frameLetters : reference.mapFrameUuid.toList ≠ [] :=
    fun empty => framed (String.toList_eq_nil_iff.mp empty)
  have identityLetters : reference.referenceUuid.toList ≠ [] :=
    fun empty => identified (String.toList_eq_nil_iff.mp empty)
  have frame := (List.cons_head_tail frameLetters).symm
  have identity := (List.dropLast_append_getLast identityLetters).symm
  refine ⟨_, _, frame, identity, ?_⟩
  calc reference.fieldText
      = joined ([reference.mapFrameUuid.toList.head frameLetters] ++
          reference.mapFrameUuid.toList.tail) (reference.labelledFields ++
            [(";reference_uuid=".toList, reference.referenceUuid.toList.dropLast ++
              [reference.referenceUuid.toList.getLast identityLetters])]) := by
        rw [← identity, List.singleton_append, ← frame]
        rfl
    _ = _ := by rw [joined_append, joined_concat, List.singleton_append]; rfl

theorem Unmistakable.fields_eq (unmistakable : reference.Unmistakable)
    (passes : reference.PassesFieldChecks decimal) (valid : other.PassesFieldChecks decimal)
    (same : other.fieldText = reference.fieldText) :
    other.mapFrameUuid = reference.mapFrameUuid ∧ other.mapFrameId = reference.mapFrameId ∧
      other.baseFrameId = reference.baseFrameId ∧
      other.mapFrameConventionId = reference.mapFrameConventionId ∧
      other.sensorRigCalibrationId = reference.sensorRigCalibrationId ∧
      other.referenceUuid = reference.referenceUuid := by
  -- What is left of the text without its ends can be read in one way only.
  obtain ⟨first, last, frame, identity, text⟩ := fieldText_trimmed passes
  obtain ⟨start, stop, otherFrame, otherIdentity, otherText⟩ := fieldText_trimmed valid
  rw [text, otherText] at same
  obtain ⟨starts, trimmed⟩ := List.cons.inj same
  obtain ⟨inner, stops⟩ := List.append_inj' trimmed rfl
  obtain ⟨frames, fields⟩ := readOneWay_of_apart isLabel_innerFields unmistakable
    other.mapFrameUuid.toList.tail other.innerFields rfl inner
  simp only [innerFields, labelledFields, List.cons_append, List.nil_append, List.cons.injEq,
    Prod.mk.injEq, true_and, and_true, String.toList_inj] at fields
  obtain ⟨mapFrameId, baseFrameId, convention, sensorRig, identities⟩ := fields
  refine ⟨?frame, mapFrameId, baseFrameId, convention, sensorRig, ?identity⟩
  case frame =>
    rw [← String.toList_inj, otherFrame, frame, starts, frames]
  case identity =>
    rw [← String.toList_inj, otherIdentity, identity, identities, stops]

theorem unmistakable_of_alone (printing : DecimalPrinting decimal)
    (passes : reference.PassesFieldChecks decimal)
    (alone : ∀ other : RailYawReference, other.PassesFieldChecks decimal →
      other.canonicalReference (formatHeading decimal)
        = reference.canonicalReference (formatHeading decimal) → other.SameIdentity reference) :
    reference.Unmistakable := by
  -- Every other way to read the text makes another reference of it.
  obtain ⟨first, last, frame, identity, text⟩ := fieldText_trimmed passes
  obtain ⟨schema, verified, finite, -⟩ := passesFieldChecks_iff.1 passes
  apply apart_of_readOneWay isLabel_innerFields
  intro next more names same
  simp only [innerFields, labelledFields, List.cons_append, List.nil_append, List.map_cons,
    List.map_nil, List.map_eq_cons_iff, List.map_eq_nil_iff] at names
  obtain ⟨⟨_, mapFrameId⟩, _, rfl, rfl, ⟨_, baseFrameId⟩, _, rfl, rfl, ⟨_, convention⟩, _, rfl, rfl,
    ⟨_, sensorRig⟩, _, rfl, rfl, ⟨_, trimmed⟩, _, rfl, rfl, rfl⟩ := names
  let other : RailYawReference := { reference with
    mapFrameUuid := String.ofList (first :: next)
    mapFrameId := String.ofList mapFrameId
    baseFrameId := String.ofList baseFrameId
    mapFrameConventionId := String.ofList convention
    sensorRigCalibrationId := String.ofList sensorRig
    referenceUuid := String.ofList (trimmed ++ [last]) }
  have valid : other.PassesFieldChecks decimal := by
    refine passesFieldChecks_iff.2 ⟨schema, verified, finite, ?_, ?_⟩
    · exact fun empty => List.cons_ne_nil first next (by
        simpa [other] using congrArg String.toList empty)
    · exact fun empty => List.cons_ne_nil last [] (by
        simpa [other] using congrArg String.toList empty)
  have agree := alone other valid
    ((canonicalReference_eq_iff printing valid passes).mpr ⟨rfl, rfl, by
      rw [text, ← same]
      simp [fieldText, other, labelledFields, joined]⟩)
  have frames := congrArg String.toList agree.mapFrameUuid
  have identities := congrArg String.toList agree.referenceUuid
  simp only [other, String.toList_ofList] at frames identities
  rw [frame] at frames
  rw [identity] at identities
  simp only [innerFields, labelledFields, ← agree.mapFrameId, ← agree.baseFrameId,
    ← agree.mapFrameConventionId, ← agree.sensorRigCalibrationId]
  rw [← (List.append_inj' identities rfl).1]
  simp only [other, String.toList_ofList]
  exact ⟨(List.cons.inj frames).2, rfl⟩

theorem alone_iff (printing : DecimalPrinting decimal)
    (passes : reference.PassesFieldChecks decimal) :
    (∀ other : RailYawReference, other.PassesFieldChecks decimal →
      other.canonicalReference (formatHeading decimal)
        = reference.canonicalReference (formatHeading decimal) →
      other.SameIdentity reference) ↔ reference.Unmistakable := by
  refine ⟨unmistakable_of_alone printing passes, ?_⟩
  intro unmistakable other valid same
  obtain ⟨schema, verified, finite, -⟩ := passesFieldChecks_iff.1 passes
  obtain ⟨version, checked, bounded, -⟩ := passesFieldChecks_iff.1 valid
  obtain ⟨heading, source, fields⟩ := (canonicalReference_eq_iff printing valid passes).mp same
  obtain ⟨mapFrameUuid, mapFrameId, baseFrameId, convention, sensorRig, identity⟩ :=
    unmistakable.fields_eq passes valid fields
  have turns : ∃ turns : ℤ,
      other.railYawInMapRad = reference.railYawInMapRad + .fin (2 * mPi * turns) := by
    obtain ⟨left, isLeft⟩ := Scalar.isFinite_iff.1 bounded
    obtain ⟨right, isRight⟩ := Scalar.isFinite_iff.1 finite
    rw [isLeft, isRight] at heading ⊢
    exact turns_of_normalizeAngle_eq heading
  exact ⟨version.trans schema.symm, checked.trans verified.symm, turns, source, mapFrameUuid,
    mapFrameId, baseFrameId, convention, sensorRig, identity⟩

end RailYawReference

/-! ### Targets -/

namespace Relocalization

structure RegistrationTargetIdentityInput where
  source : RegistrationTargetSource := .unknown
  contentVersion : Nat := 0
  mapRebuildGeneration : Nat := 0
  mapFrameUuid : String := ""
  cropIdentity : String := ""
  deriving DecidableEq

def RegistrationTargetSnapshot.identity (target : RegistrationTargetSnapshot) :
    RegistrationTargetIdentityInput where
  source := target.source
  contentVersion := target.contentVersion
  mapRebuildGeneration := target.mapRebuildGeneration
  mapFrameUuid := target.mapFrameUuid
  cropIdentity := target.cropIdentity

namespace RegistrationTargetIdentityInput

variable {input other : RegistrationTargetIdentityInput}

section

variable (input : RegistrationTargetIdentityInput)

def text : String :=
  registrationTargetSourceName input.source ++ ";" ++ toString input.contentVersion ++ ";" ++
    toString input.mapRebuildGeneration ++ ";" ++ input.mapFrameUuid ++ ";" ++ input.cropIdentity

theorem makeRegistrationTargetSnapshotId_text (target : RegistrationTargetSnapshot) :
    makeRegistrationTargetSnapshotId target =
      if fnv1a64 target.identity.text = 0 then 1 else fnv1a64 target.identity.text := rfl

def labelledCrop : List (List Char × List Char) :=
  [([';'], input.cropIdentity.toList)]

def fieldText : List Char :=
  joined input.mapFrameUuid.toList input.labelledCrop

end

theorem isLabel_labelledCrop : ∀ entry ∈ input.labelledCrop, IsLabel ';' entry.1 := by
  intro entry member
  rw [List.mem_singleton.mp member]
  exact ⟨[], rfl, List.not_mem_nil⟩

theorem text_toList :
    input.text.toList = (registrationTargetSourceName input.source).toList ++ ';' ::
      ((toString input.contentVersion).toList ++ ';' ::
        ((toString input.mapRebuildGeneration).toList ++ ';' :: input.fieldText)) := by
  have separator : ";".toList = [';'] := by decide
  unfold text fieldText labelledCrop
  simp only [String.toList_append, separator, joined, List.append_assoc, List.cons_append,
    List.nil_append]

theorem semicolon_not_mem_source (source : RegistrationTargetSource) :
    ';' ∉ (registrationTargetSourceName source).toList := by
  cases source <;> decide

theorem registrationTargetSourceName_injective {left right : RegistrationTargetSource}
    (same : registrationTargetSourceName left = registrationTargetSourceName right) :
    left = right := by
  revert same
  cases left <;> cases right <;> decide

theorem text_eq_iff :
    input.text = other.text ↔ input.source = other.source ∧
      input.contentVersion = other.contentVersion ∧
      input.mapRebuildGeneration = other.mapRebuildGeneration ∧
      input.fieldText = other.fieldText := by
  -- Neither the source nor a number contains the semicolon that ends it.
  rw [← String.toList_inj, text_toList, text_toList]
  constructor
  · intro same
    obtain ⟨sources, same⟩ := eq_of_separator (semicolon_not_mem_source _)
      (semicolon_not_mem_source _) same
    obtain ⟨versions, same⟩ := eq_of_separator (semicolon_not_mem_toString _)
      (semicolon_not_mem_toString _) same
    obtain ⟨generations, fields⟩ := eq_of_separator (semicolon_not_mem_toString _)
      (semicolon_not_mem_toString _) same
    exact ⟨registrationTargetSourceName_injective (String.toList_inj.mp sources),
      toString_nat_injective (String.toList_inj.mp versions),
      toString_nat_injective (String.toList_inj.mp generations), fields⟩
  · rintro ⟨sources, versions, generations, fields⟩
    rw [sources, versions, generations, fields]

theorem eq_of_fields (same : input.text = other.text)
    (frames : input.mapFrameUuid.toList = other.mapFrameUuid.toList)
    (crops : input.labelledCrop = other.labelledCrop) : input = other := by
  obtain ⟨source, version, generation, -⟩ := text_eq_iff.1 same
  have crop : input.cropIdentity.toList = other.cropIdentity.toList :=
    (Prod.mk.inj (List.cons.inj crops).1).2
  cases input
  cases other
  simp only [mk.injEq]
  exact ⟨source, version, generation, String.toList_inj.mp frames, String.toList_inj.mp crop⟩

theorem alone_iff :
    (∀ other : RegistrationTargetIdentityInput, other.text = input.text → other = input) ↔
      ';' ∉ input.mapFrameUuid.toList ∧ ';' ∉ input.cropIdentity.toList := by
  have apart_iff : Apart input.mapFrameUuid.toList input.labelledCrop ↔
      ';' ∉ input.mapFrameUuid.toList ∧ ';' ∉ input.cropIdentity.toList := by
    simp only [labelledCrop, Apart, List.singleton_infix_iff, and_true]
  rw [← apart_iff, ← readOneWay_iff_apart isLabel_labelledCrop]
  constructor
  · -- Every other way to read the text makes another target of it.
    intro alone next more names same
    simp only [labelledCrop, List.map_cons, List.map_nil, List.map_eq_cons_iff,
      List.map_eq_nil_iff] at names
    obtain ⟨⟨_, crop⟩, _, rfl, rfl, rfl⟩ := names
    have agree := alone
      { input with mapFrameUuid := String.ofList next, cropIdentity := String.ofList crop }
      (text_eq_iff.2 ⟨rfl, rfl, rfl, by simpa [fieldText, labelledCrop] using same⟩)
    have frames := congrArg (fun target => target.mapFrameUuid.toList) agree
    have crops := congrArg (fun target => target.cropIdentity.toList) agree
    simp only [String.toList_ofList] at frames crops
    rw [frames, crops]
    exact ⟨rfl, rfl⟩
  · intro unique other same
    obtain ⟨-, -, -, fields⟩ := text_eq_iff.1 same
    obtain ⟨frames, crops⟩ := unique other.mapFrameUuid.toList other.labelledCrop rfl fields
    exact eq_of_fields same frames crops

end RegistrationTargetIdentityInput

/-! ### Both identities -/

/-- A reference is alone with its text exactly if it is unmistakable, and a target exactly if there
is no semicolon in its frame and crop. -/
theorem canonical_identities_alone_iff {decimal : Scalar → String}
    (printing : DecimalPrinting decimal) :
    (∀ reference : RailYawReference, reference.PassesFieldChecks decimal →
      ((∀ other : RailYawReference, other.PassesFieldChecks decimal →
        other.canonicalReference (RailYawReference.formatHeading decimal)
          = reference.canonicalReference (RailYawReference.formatHeading decimal) →
        other.SameIdentity reference) ↔ reference.Unmistakable)) ∧
    ∀ input : RegistrationTargetIdentityInput,
      (∀ other : RegistrationTargetIdentityInput, other.text = input.text → other = input) ↔
        ';' ∉ input.mapFrameUuid.toList ∧ ';' ∉ input.cropIdentity.toList :=
  ⟨fun _ passes => RailYawReference.alone_iff printing passes,
    fun _ => RegistrationTargetIdentityInput.alone_iff⟩

def sampleDecimal (value : Scalar) : String :=
  toString (if value.value = 0 then 0 else Encodable.encode value.value + 1)

theorem decimalPrinting_sampleDecimal : DecimalPrinting sampleDecimal where
  injective {left right} same := by
    have places : (if left = 0 then 0 else Encodable.encode left + 1) =
        (if right = 0 then 0 else Encodable.encode right + 1) := toString_nat_injective same
    by_cases leftZero : left = 0
    · by_cases rightZero : right = 0
      · exact leftZero.trans rightZero.symm
      · simp [leftZero, rightZero] at places
    · by_cases rightZero : right = 0
      · simp [leftZero, rightZero] at places
      · rw [if_neg leftZero, if_neg rightZero] at places
        exact Encodable.encode_injective (Nat.succ.inj places)
  unseparated _ := semicolon_not_mem_toString _

def siteReference (mapFrameUuid mapFrameId : String) : RailYawReference := {
  verified := true
  mapFrameUuid := mapFrameUuid
  mapFrameId := mapFrameId
  referenceUuid := "reference" }

theorem canonical_identities_alone_plain :
    (∀ other : RailYawReference, other.PassesFieldChecks sampleDecimal →
      other.canonicalReference (RailYawReference.formatHeading sampleDecimal)
        = (siteReference "site" "map").canonicalReference
            (RailYawReference.formatHeading sampleDecimal) →
      other.SameIdentity (siteReference "site" "map")) ∧
    ∀ other : RegistrationTargetIdentityInput,
      other.text = RegistrationTargetIdentityInput.text
        { source := .persistentMap, mapFrameUuid := "site", cropIdentity := "full_local_map" } →
      other =
        { source := .persistentMap, mapFrameUuid := "site", cropIdentity := "full_local_map" } := by
  obtain ⟨references, targets⟩ := canonical_identities_alone_iff decimalPrinting_sampleDecimal
  refine ⟨(references _ (RailYawReference.passesFieldChecks_iff.2 (by decide))).mpr ?_,
    (targets _).mpr (by decide)⟩
  refine ⟨by decide, by decide, by decide, by decide, by decide, by decide, by decide, by decide,
    by decide, by decide, trivial⟩

theorem canonical_identities_collide :
    (∃ reference other : RailYawReference, reference.PassesFieldChecks sampleDecimal ∧
      other.PassesFieldChecks sampleDecimal ∧
      other.canonicalReference (RailYawReference.formatHeading sampleDecimal)
        = reference.canonicalReference (RailYawReference.formatHeading sampleDecimal) ∧
      ¬other.SameIdentity reference) ∧
    ∃ input other : RegistrationTargetIdentityInput, other.text = input.text ∧ other ≠ input := by
  refine ⟨⟨siteReference "site;map_frame_id=old" "map",
    siteReference "site" "old;map_frame_id=map",
    RailYawReference.passesFieldChecks_iff.2 (by decide),
    RailYawReference.passesFieldChecks_iff.2 (by decide), ?_, ?_⟩,
    { source := .croppedActiveMap, mapFrameUuid := "site", cropIdentity := "x0=0;x1=10" },
    { source := .croppedActiveMap, mapFrameUuid := "site;x0=0", cropIdentity := "x1=10" },
    by decide, by decide⟩
  · exact (RailYawReference.canonicalReference_eq_iff decimalPrinting_sampleDecimal
      (RailYawReference.passesFieldChecks_iff.2 (by decide))
      (RailYawReference.passesFieldChecks_iff.2 (by decide))).mpr ⟨rfl, rfl, by decide⟩
  · intro same
    exact absurd same.mapFrameUuid (by decide)

end Relocalization

end NdtSlam
