import NdtSlam.Foundation.Scalar

/-! Field-by-field validation of configurations, with the field and reason of every rejection. -/

namespace NdtSlam

structure CargoConfigValidationIssue where
  field : String
  reason : String

structure CargoConfigValidationResult where
  valid : Bool := true
  issues : List CargoConfigValidationIssue := []

namespace CargoConfigValidationResult

def reject (result : CargoConfigValidationResult) (field reason : String) :
    CargoConfigValidationResult :=
  { valid := false, issues := result.issues ++ [⟨field, reason⟩] }

def summary (result : CargoConfigValidationResult) : String :=
  if result.valid then "valid"
  else String.intercalate ";" (result.issues.map fun issue => issue.field ++ ":" ++ issue.reason)

end CargoConfigValidationResult

structure ConfigCheck where
  field : String
  failure : Option String

namespace ConfigCheck

def failsWhen (field reason : String) (condition : Bool) : ConfigCheck :=
  ⟨field, if condition then some reason else none⟩

def positive (field : String) (value : Scalar) : ConfigCheck :=
  ⟨field, if !value.isFinite then some "non_finite"
    else if value ≤ 0 then some "must_be_positive" else none⟩

def nonnegative (field : String) (value : Scalar) : ConfigCheck :=
  ⟨field, if !value.isFinite then some "non_finite"
    else if value < 0 then some "must_be_nonnegative" else none⟩

def ratio (field : String) (value : Scalar) : ConfigCheck :=
  ⟨field, if !value.isFinite then some "non_finite"
    else if value < 0 || 1 < value then some "outside_0_1" else none⟩

def validate (checks : List ConfigCheck) : CargoConfigValidationResult :=
  checks.foldl (fun result check => match check.failure with
    | some reason => result.reject check.field reason
    | none => result) {}

theorem validate_valid (checks : List ConfigCheck) :
    (validate checks).valid = true ↔ ∀ check ∈ checks, check.failure = none := by
  -- Generalize the starting result, since a rejection is never taken back.
  have general : ∀ (result : CargoConfigValidationResult),
      (checks.foldl (fun result check => match check.failure with
        | some reason => result.reject check.field reason
        | none => result) result).valid = true ↔
      result.valid = true ∧ ∀ check ∈ checks, check.failure = none := by
    induction checks with
    | nil => simp
    | cons check rest ih =>
      intro result
      simp only [List.foldl_cons, ih, List.forall_mem_cons]
      -- A check either passes, or leaves a rejection behind.
      cases failure : check.failure <;> simp [CargoConfigValidationResult.reject]
  simpa [validate] using general {}

variable {field : String} {value : Scalar}

theorem positive_passes (passes : (positive field value).failure = none) :
    ∃ q : ℚ, 0 < q ∧ value = .fin q := by
  -- Anything but a rational is rejected as not finite.
  cases value with
  | fin q =>
    refine ⟨q, ?_, rfl⟩
    by_contra small
    have nonpositive : Scalar.fin q ≤ 0 := Scalar.fin_le_fin.2 (not_lt.mp small)
    simp [positive, nonpositive] at passes
  | nan => simp [positive] at passes
  | negInf => simp [positive] at passes
  | posInf => simp [positive] at passes

theorem nonnegative_passes (passes : (nonnegative field value).failure = none) :
    ∃ q : ℚ, 0 ≤ q ∧ value = .fin q := by
  -- Anything but a rational is rejected as not finite.
  cases value with
  | fin q =>
    refine ⟨q, ?_, rfl⟩
    by_contra small
    have negative : Scalar.fin q < 0 := Scalar.fin_lt_fin.2 (not_le.mp small)
    simp [nonnegative, negative] at passes
  | nan => simp [nonnegative] at passes
  | negInf => simp [nonnegative] at passes
  | posInf => simp [nonnegative] at passes

theorem ratio_passes (passes : (ratio field value).failure = none) :
    ∃ q : ℚ, 0 ≤ q ∧ q ≤ 1 ∧ value = .fin q := by
  -- Anything but a rational is rejected as not finite.
  cases value with
  | fin q =>
    refine ⟨q, ?_, ?_, rfl⟩
    · by_contra small
      have negative : Scalar.fin q < 0 := Scalar.fin_lt_fin.2 (not_le.mp small)
      simp [ratio, negative] at passes
    · by_contra large
      have above : (1 : Scalar) < .fin q := Scalar.fin_lt_fin.2 (not_le.mp large)
      simp [ratio, above] at passes
  | nan => simp [ratio] at passes
  | negInf => simp [ratio] at passes
  | posInf => simp [ratio] at passes

theorem failsWhen_passes {field reason : String} {condition : Bool}
    (passes : (failsWhen field reason condition).failure = none) : condition = false := by
  cases condition with
  | false => rfl
  | true => cases passes

end ConfigCheck
end NdtSlam
