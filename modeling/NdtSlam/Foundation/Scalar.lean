import Mathlib.Data.Rat.Floor

/-! Machine scalars under exact arithmetic: rationals, the two infinities, and not-a-number. -/

namespace NdtSlam

/--
A floating-point value whose finite part is computed without rounding.

The special values keep their usual comparison and propagation rules.
The sign of zero is not kept.
-/
inductive Scalar where
  | nan
  | negInf
  | posInf
  | fin (value : ℚ)
  deriving DecidableEq

namespace Scalar

instance (n : Nat) : OfNat Scalar n := ⟨.fin n⟩

instance : OfScientific Scalar :=
  ⟨fun mantissa negative exponent => .fin (OfScientific.ofScientific mantissa negative exponent)⟩

instance : Inhabited Scalar := ⟨0⟩

def isFinite : Scalar → Bool
  | .fin _ => true
  | _ => false

def value : Scalar → ℚ
  | .fin a => a
  | _ => 0

def lt : Scalar → Scalar → Bool
  | .fin a, .fin b => decide (a < b)
  | .negInf, .fin _ | .negInf, .posInf | .fin _, .posInf => true
  | _, _ => false

def le : Scalar → Scalar → Bool
  | .fin a, .fin b => decide (a ≤ b)
  | .negInf, .negInf | .posInf, .posInf => true
  | .negInf, .fin _ | .negInf, .posInf | .fin _, .posInf => true
  | _, _ => false

def same : Scalar → Scalar → Bool
  | .fin a, .fin b => decide (a = b)
  | .negInf, .negInf | .posInf, .posInf => true
  | _, _ => false

instance : LT Scalar := ⟨fun a b => a.lt b = true⟩
instance : LE Scalar := ⟨fun a b => a.le b = true⟩
instance (a b : Scalar) : Decidable (a < b) := inferInstanceAs (Decidable (a.lt b = true))
instance (a b : Scalar) : Decidable (a ≤ b) := inferInstanceAs (Decidable (a.le b = true))

def neg : Scalar → Scalar
  | .nan => .nan
  | .negInf => .posInf
  | .posInf => .negInf
  | .fin a => .fin (-a)

def add : Scalar → Scalar → Scalar
  | .fin a, .fin b => .fin (a + b)
  | .nan, _ | _, .nan => .nan
  | .posInf, .negInf | .negInf, .posInf => .nan
  | .posInf, _ | _, .posInf => .posInf
  | .negInf, _ | _, .negInf => .negInf

def infinityOf (sign : ℚ) : Scalar :=
  if 0 < sign then .posInf else if sign < 0 then .negInf else .nan

def mul : Scalar → Scalar → Scalar
  | .fin a, .fin b => .fin (a * b)
  | .nan, _ | _, .nan => .nan
  | .posInf, .posInf | .negInf, .negInf => .posInf
  | .posInf, .negInf | .negInf, .posInf => .negInf
  | .posInf, .fin a | .fin a, .posInf => infinityOf a
  | .negInf, .fin a | .fin a, .negInf => infinityOf (-a)

def div : Scalar → Scalar → Scalar
  | .fin a, .fin b => if b = 0 then infinityOf a else .fin (a / b)
  | .nan, _ | _, .nan => .nan
  | .fin _, .posInf | .fin _, .negInf => .fin 0
  | .posInf, .fin b => if b < 0 then .negInf else .posInf
  | .negInf, .fin b => if b < 0 then .posInf else .negInf
  | _, _ => .nan

instance : Neg Scalar := ⟨neg⟩
instance : Add Scalar := ⟨add⟩
instance : Sub Scalar := ⟨fun a b => add a (neg b)⟩
instance : Mul Scalar := ⟨mul⟩
instance : Div Scalar := ⟨div⟩

def abs : Scalar → Scalar
  | .nan => .nan
  | .negInf | .posInf => .posInf
  | .fin a => .fin |a|

def minOf (a b : Scalar) : Scalar := if b < a then b else a

def maxOf (a b : Scalar) : Scalar := if a < b then b else a

def clamp (value low high : Scalar) : Scalar :=
  if value < low then low else if high < value then high else value

def ofNat (count : Nat) : Scalar := .fin count

@[simp] theorem isFinite_fin (a : ℚ) : (fin a).isFinite = true := rfl
@[simp] theorem isFinite_nan : nan.isFinite = false := rfl
@[simp] theorem isFinite_negInf : negInf.isFinite = false := rfl
@[simp] theorem isFinite_posInf : posInf.isFinite = false := rfl

variable {a : Scalar}

theorem isFinite_iff : a.isFinite = true ↔ ∃ value, a = fin value := by
  cases a <;> simp

@[simp] theorem fin_lt_fin {a b : ℚ} : fin a < fin b ↔ a < b := by
  show decide (a < b) = true ↔ a < b
  simp

@[simp] theorem fin_le_fin {a b : ℚ} : fin a ≤ fin b ↔ a ≤ b := by
  show decide (a ≤ b) = true ↔ a ≤ b
  simp

variable (a b : ℚ)

@[simp] theorem fin_add_fin : fin a + fin b = fin (a + b) := rfl
@[simp] theorem neg_fin (a : ℚ) : -fin a = fin (-a) := rfl
@[simp] theorem fin_mul_fin : fin a * fin b = fin (a * b) := rfl
@[simp] theorem abs_fin (a : ℚ) : (fin a).abs = fin |a| := rfl

@[simp] theorem maxOf_fin_fin : maxOf (fin a) (fin b) = fin (max a b) := by
  unfold maxOf
  by_cases smaller : a < b
  · rw [if_pos (fin_lt_fin.2 smaller), max_eq_right smaller.le]
  · rw [if_neg (fun below => smaller (fin_lt_fin.1 below)), max_eq_left (not_lt.mp smaller)]

@[simp] theorem minOf_fin_fin : minOf (fin a) (fin b) = fin (min a b) := by
  unfold minOf
  by_cases smaller : b < a
  · rw [if_pos (fin_lt_fin.2 smaller), min_eq_right smaller.le]
  · rw [if_neg (fun below => smaller (fin_lt_fin.1 below)), min_eq_left (not_lt.mp smaller)]

theorem clamp_of_le {value low high : ℚ} (above : low ≤ value) :
    clamp (fin value) (fin low) (fin high) = fin (min value high) := by
  unfold clamp
  rw [if_neg (fun below => not_lt.mpr above (fin_lt_fin.1 below))]
  by_cases larger : high < value
  · rw [if_pos (fin_lt_fin.2 larger), min_eq_right larger.le]
  · rw [if_neg (fun beyond => larger (fin_lt_fin.1 beyond)), min_eq_left (not_lt.mp larger)]

@[simp] theorem fin_sub_fin : fin a - fin b = fin (a - b) := by
  -- Subtraction adds the negated second operand.
  show fin (a + -b) = fin (a - b)
  rw [sub_eq_add_neg]

variable {a b : Scalar}

theorem add_isFinite :
    (a + b).isFinite = true ↔ a.isFinite = true ∧ b.isFinite = true := by
  have both : (a + b).isFinite = (a.isFinite && b.isFinite) := by
    cases a <;> cases b <;> rfl
  rw [both, Bool.and_eq_true]

theorem sub_isFinite :
    (a - b).isFinite = true ↔ a.isFinite = true ∧ b.isFinite = true := by
  have both : (a - b).isFinite = (a.isFinite && b.isFinite) := by
    cases a <;> cases b <;> rfl
  rw [both, Bool.and_eq_true]

theorem mul_isFinite (first : a.isFinite = true) (second : b.isFinite = true) :
    (a * b).isFinite = true := by
  obtain ⟨p, rfl⟩ := isFinite_iff.1 first
  obtain ⟨q, rfl⟩ := isFinite_iff.1 second
  rfl

theorem div_isFinite {divisor : ℚ} (first : a.isFinite = true) (nonzero : divisor ≠ 0)
    (second : b = fin divisor) : (a / b).isFinite = true := by
  obtain ⟨p, rfl⟩ := isFinite_iff.1 first
  subst second
  show (if divisor = 0 then infinityOf p else fin (p / divisor)).isFinite = true
  rw [if_neg nonzero]
  rfl

theorem fin_mul_isFinite {factor : ℚ} :
    (fin factor * a).isFinite = true ↔ a.isFinite = true := by
  -- A multiple of an infinity is an infinity or undefined.
  have unbounded (sign : ℚ) : (infinityOf sign).isFinite = false := by
    unfold infinityOf
    split_ifs <;> rfl
  cases a with
  | fin value => exact Iff.rfl
  | nan => exact Iff.rfl
  | posInf => exact Bool.eq_iff_iff.mp (unbounded factor)
  | negInf => exact Bool.eq_iff_iff.mp (unbounded (-factor))

theorem le_refl_of_finite (finite : a.isFinite = true) : a ≤ a := by
  obtain ⟨value, rfl⟩ := isFinite_iff.1 finite
  exact fin_le_fin.2 (le_rfl)

theorem le_of_lt (below : a < b) : a ≤ b := by
  cases a <;> cases b <;>
    first
    | rfl
    | exact absurd below Bool.false_ne_true
    | exact fin_le_fin.2 (fin_lt_fin.1 below).le

theorem lt_of_le_of_lt {a b c : Scalar} (first : a ≤ b) (second : b < c) : a < c := by
  -- Only four triples of kinds can be ordered at all.
  cases a <;> cases b <;> cases c <;>
    first
    | rfl
    | exact absurd first Bool.false_ne_true
    | exact absurd second Bool.false_ne_true
    | exact fin_lt_fin.2 ((fin_le_fin.1 first).trans_lt (fin_lt_fin.1 second))

theorem le_trans {a b c : Scalar} (first : a ≤ b) (second : b ≤ c) : a ≤ c := by
  cases a <;> cases b <;> cases c <;>
    first
    | rfl
    | exact absurd first Bool.false_ne_true
    | exact absurd second Bool.false_ne_true
    | exact fin_le_fin.2 ((fin_le_fin.1 first).trans (fin_le_fin.1 second))

theorem isFinite_of_between {low high : ℚ} (above : fin low ≤ a) (below : a ≤ fin high) :
    a.isFinite = true := by
  cases a with
  | nan => cases above
  | negInf => cases above
  | posInf => cases below
  | fin => rfl

theorem not_lt_of_le (below : a ≤ b) : ¬b < a := by
  intro above
  cases a <;> cases b <;>
    first
    | exact absurd above Bool.false_ne_true
    | exact absurd below Bool.false_ne_true
    | exact not_lt.mpr (fin_le_fin.1 below) (fin_lt_fin.1 above)

theorem le_of_not_lt {a b low below : Scalar} (above : low ≤ a) (number : below < b)
    (within : ¬b < a) : a ≤ b := by
  -- Neither value is not-a-number, so one of the two comparisons holds.
  cases a <;> cases b <;>
    first
    | rfl
    | exact absurd rfl within
    | exact fin_le_fin.2 (not_lt.mp fun smaller => within (fin_lt_fin.2 smaller))
    | (cases low <;> exact absurd above Bool.false_ne_true)
    | (cases below <;> exact absurd number Bool.false_ne_true)

theorem sub_self_of_finite (finite : a.isFinite = true) : a - a = 0 := by
  obtain ⟨value, rfl⟩ := isFinite_iff.1 finite
  rw [fin_sub_fin, sub_self]
  rfl

theorem fin_le_of_not_lt {a : ℚ} {bound : Scalar} (numeric : bound ≠ nan)
    (within : ¬bound < fin a) : fin a ≤ bound := by
  cases bound with
  | fin value => exact fin_le_fin.2 (not_lt.mp fun above => within (fin_lt_fin.2 above))
  | nan => exact absurd rfl numeric
  | posInf => rfl
  | negInf => exact absurd rfl within

theorem minOf_fin {low : ℚ} {other : Scalar} (bounded : other ≠ negInf) :
    ∃ least, least ≤ low ∧ minOf (fin low) other = fin least := by
  unfold minOf
  split_ifs with smaller
  · cases other with
    | fin value => exact ⟨value, (fin_lt_fin.1 smaller).le, rfl⟩
    | negInf => exact absurd rfl bounded
    | nan => exact absurd smaller Bool.false_ne_true
    | posInf => exact absurd smaller Bool.false_ne_true
  · exact ⟨low, le_rfl, rfl⟩

theorem maxOf_fin {high : ℚ} {other : Scalar} (bounded : other ≠ posInf) :
    ∃ most, high ≤ most ∧ maxOf (fin high) other = fin most := by
  unfold maxOf
  split_ifs with larger
  · cases other with
    | fin value => exact ⟨value, (fin_lt_fin.1 larger).le, rfl⟩
    | posInf => exact absurd rfl bounded
    | nan => exact absurd larger Bool.false_ne_true
    | negInf => exact absurd larger Bool.false_ne_true
  · exact ⟨high, le_rfl, rfl⟩

theorem maxOf_zero_cases (a : Scalar) :
    maxOf 0 a = posInf ∨ ∃ value : ℚ, 0 ≤ value ∧ maxOf 0 a = fin value := by
  unfold maxOf
  split_ifs with positive
  · cases a with
    | fin value => exact .inr ⟨value, (fin_lt_fin.1 positive).le, rfl⟩
    | posInf => exact .inl rfl
    | nan => exact absurd positive Bool.false_ne_true
    | negInf => exact absurd positive Bool.false_ne_true
  · exact .inr ⟨0, le_rfl, rfl⟩

end Scalar
end NdtSlam
