import Mathlib.Algebra.Group.Even
import Mathlib.Tactic.FieldSimp
import Mathlib.Tactic.LinearCombination
import Mathlib.Tactic.Ring

namespace LedgerWallet.Curve

variable {K : Type*} [Field K]

/-- The addition law of the curve has no exceptions. -/
class IsComplete (d : K) : Prop where
  two_ne_zero : (2 : K) ≠ 0
  isSquare_neg_one : IsSquare (-1 : K)
  not_isSquare : ¬ IsSquare d

def OnCurve (d x y : K) : Prop := y ^ 2 - x ^ 2 = 1 + d * x ^ 2 * y ^ 2

variable {d x₁ y₁ x₂ y₂ x₃ y₃ : K}

theorem isSquare_of_sq_eq_mul_sq {n m : K} (h : n ^ 2 = d * m ^ 2) (nonzero : m ≠ 0) :
    IsSquare d := by
  refine ⟨n / m, ?_⟩
  rw [div_mul_div_comm, eq_div_iff (mul_ne_zero nonzero nonzero)]
  linear_combination -h

/-- If `d x₁ x₂ y₁ y₂` were a sign, then one of `y₂ ± i x₂` would show `d` to be a square. -/
theorem product_sq_ne_one [complete : IsComplete d] (h₁ : OnCurve d x₁ y₁)
    (h₂ : OnCurve d x₂ y₂) : (d * x₁ * x₂ * y₁ * y₂) ^ 2 ≠ 1 := by
  intro unit
  obtain ⟨i, square⟩ := complete.isSquare_neg_one
  unfold OnCurve at h₁ h₂
  have nonzero : d * x₁ * x₂ * y₁ * y₂ ≠ 0 := by
    intro zero
    simp [zero] at unit
  simp only [mul_ne_zero_iff] at nonzero
  obtain ⟨⟨⟨⟨-, x₁0⟩, x₂0⟩, y₁0⟩, -⟩ := nonzero
  have plus : (y₁ + d * x₁ * x₂ * y₁ * y₂ * (i * x₁)) ^ 2 =
      d * (x₁ * y₁ * (y₂ + i * x₂)) ^ 2 := by
    linear_combination h₁ - d * x₁ ^ 2 * y₁ ^ 2 * h₂ + (x₁ ^ 2 * i ^ 2 - 1) * unit +
      (d * x₁ ^ 2 * y₁ ^ 2 * x₂ ^ 2 - x₁ ^ 2) * square
  have minus : (y₁ - d * x₁ * x₂ * y₁ * y₂ * (i * x₁)) ^ 2 =
      d * (x₁ * y₁ * (y₂ - i * x₂)) ^ 2 := by
    linear_combination h₁ - d * x₁ ^ 2 * y₁ ^ 2 * h₂ + (x₁ ^ 2 * i ^ 2 - 1) * unit +
      (d * x₁ ^ 2 * y₁ ^ 2 * x₂ ^ 2 - x₁ ^ 2) * square
  by_cases sum : y₂ + i * x₂ = 0
  · by_cases difference : y₂ - i * x₂ = 0
    · have twice : 2 * i * x₂ = 0 := by linear_combination sum - difference
      have i0 : i ≠ 0 := by
        rintro rfl
        simp at square
      exact mul_ne_zero (mul_ne_zero complete.two_ne_zero i0) x₂0 twice
    · exact complete.not_isSquare
        (isSquare_of_sq_eq_mul_sq minus (mul_ne_zero (mul_ne_zero x₁0 y₁0) difference))
  · exact complete.not_isSquare
      (isSquare_of_sq_eq_mul_sq plus (mul_ne_zero (mul_ne_zero x₁0 y₁0) sum))

theorem denominators_ne_zero [IsComplete d] (h₁ : OnCurve d x₁ y₁) (h₂ : OnCurve d x₂ y₂) :
    1 + d * x₁ * x₂ * y₁ * y₂ ≠ 0 ∧ 1 - d * x₁ * x₂ * y₁ * y₂ ≠ 0 := by
  have ne := product_sq_ne_one h₁ h₂
  constructor <;> intro zero <;> apply ne
  · linear_combination (d * x₁ * x₂ * y₁ * y₂ - 1) * zero
  · linear_combination (-1 - d * x₁ * x₂ * y₁ * y₂) * zero

theorem onCurve_zero_one : OnCurve d 0 1 := by
  simp [OnCurve]

theorem onCurve_neg (h : OnCurve d x₁ y₁) : OnCurve d (-x₁) y₁ := by
  unfold OnCurve at h ⊢
  linear_combination h

def sumX (d x₁ y₁ x₂ y₂ : K) : K := (x₁ * y₂ + y₁ * x₂) / (1 + d * x₁ * x₂ * y₁ * y₂)

def sumY (d x₁ y₁ x₂ y₂ : K) : K := (y₁ * y₂ + x₁ * x₂) / (1 - d * x₁ * x₂ * y₁ * y₂)

theorem onCurve_div {n m p q : K} (hp : p ≠ 0) (hq : q ≠ 0)
    (h : m ^ 2 * p ^ 2 - n ^ 2 * q ^ 2 = p ^ 2 * q ^ 2 + d * n ^ 2 * m ^ 2) :
    OnCurve d (n / p) (m / q) := by
  unfold OnCurve
  field_simp
  linear_combination h

theorem onCurve_sum [IsComplete d] (h₁ : OnCurve d x₁ y₁) (h₂ : OnCurve d x₂ y₂) :
    OnCurve d (sumX d x₁ y₁ x₂ y₂) (sumY d x₁ y₁ x₂ y₂) := by
  obtain ⟨plus, minus⟩ := denominators_ne_zero h₁ h₂
  apply onCurve_div plus minus
  unfold OnCurve at h₁ h₂
  linear_combination
    (d ^ 2 * x₂ ^ 4 * y₂ ^ 4 * (d * x₁ ^ 2 * y₁ ^ 2 + y₁ ^ 2 - x₁ ^ 2 - 1) +
      d * x₂ ^ 2 * y₂ ^ 2 * ((x₁ ^ 2 - y₁ ^ 2) * (y₂ ^ 2 - x₂ ^ 2) - 2 * x₂ ^ 2 * y₂ ^ 2 - 2) +
      (y₂ ^ 2 - x₂ ^ 2) ^ 2 + 2 * x₂ ^ 2 * y₂ ^ 2 * (y₂ ^ 2 - x₂ ^ 2 - 1)) * h₁ +
    (d * x₂ ^ 2 * y₂ ^ 2 * ((x₁ ^ 2 + 1) ^ 2 + (y₁ ^ 2 - 1) ^ 2 - 1) +
      (x₁ ^ 2 - y₁ ^ 2 + 1) * (2 * x₂ ^ 2 * y₂ ^ 2 - x₂ ^ 2 + y₂ ^ 2) + 1) * h₂

theorem sumX_comm (d x₁ y₁ x₂ y₂ : K) : sumX d x₁ y₁ x₂ y₂ = sumX d x₂ y₂ x₁ y₁ := by
  unfold sumX
  congr 1 <;> ring

theorem sumY_comm (d x₁ y₁ x₂ y₂ : K) : sumY d x₁ y₁ x₂ y₂ = sumY d x₂ y₂ x₁ y₁ := by
  unfold sumY
  congr 1 <;> ring

variable {x y p q : K}

theorem sumX_div (hp : p ≠ 0) (hq : q ≠ 0) : sumX d (x / p) (y / q) x₃ y₃ =
    (x * q * y₃ + y * p * x₃) / (p * q + d * x * x₃ * y * y₃) := by
  unfold sumX
  rw [← mul_div_mul_left _ _ (mul_ne_zero hp hq)]
  congr 1 <;> field_simp

theorem sumY_div (hp : p ≠ 0) (hq : q ≠ 0) : sumY d (x / p) (y / q) x₃ y₃ =
    (y * p * y₃ + x * q * x₃) / (p * q - d * x * x₃ * y * y₃) := by
  unfold sumY
  rw [← mul_div_mul_left _ _ (mul_ne_zero hp hq)]
  congr 1 <;> field_simp

theorem denominators_div_ne_zero [IsComplete d] (hp : p ≠ 0) (hq : q ≠ 0)
    (h : OnCurve d (x / p) (y / q)) (h₃ : OnCurve d x₃ y₃) :
    p * q + d * x * x₃ * y * y₃ ≠ 0 ∧ p * q - d * x * x₃ * y * y₃ ≠ 0 := by
  obtain ⟨plus, minus⟩ := denominators_ne_zero h h₃
  have scaled : p * q * (d * (x / p) * x₃ * (y / q) * y₃) = d * x * x₃ * y * y₃ := by
    field_simp
  constructor
  · rw [← scaled, ← mul_one_add]
    exact mul_ne_zero (mul_ne_zero hp hq) plus
  · rw [← scaled, ← mul_one_sub]
    exact mul_ne_zero (mul_ne_zero hp hq) minus

theorem cross_x (h₁ : OnCurve d x₁ y₁) (h₂ : OnCurve d x₂ y₂) (h₃ : OnCurve d x₃ y₃) :
    ((x₁ * y₂ + y₁ * x₂) * (1 - d * x₁ * x₂ * y₁ * y₂) * y₃ +
          (y₁ * y₂ + x₁ * x₂) * (1 + d * x₁ * x₂ * y₁ * y₂) * x₃) *
        ((1 + d * x₂ * x₃ * y₂ * y₃) * (1 - d * x₂ * x₃ * y₂ * y₃) +
          d * (x₂ * y₃ + y₂ * x₃) * x₁ * (y₂ * y₃ + x₂ * x₃) * y₁) =
      ((x₂ * y₃ + y₂ * x₃) * (1 - d * x₂ * x₃ * y₂ * y₃) * y₁ +
          (y₂ * y₃ + x₂ * x₃) * (1 + d * x₂ * x₃ * y₂ * y₃) * x₁) *
        ((1 + d * x₁ * x₂ * y₁ * y₂) * (1 - d * x₁ * x₂ * y₁ * y₂) +
          d * (x₁ * y₂ + y₁ * x₂) * x₃ * (y₁ * y₂ + x₁ * x₂) * y₃) := by
  unfold OnCurve at h₁ h₂ h₃
  linear_combination
    d * x₂ * y₂ *
      (d * x₂ ^ 2 * y₂ ^ 2 * x₃ * y₃ *
          (y₁ * (x₂ * y₃ + y₂ * x₃) - x₁ * (y₂ * y₃ + x₂ * x₃)) +
        x₁ * (y₂ * y₃ + x₂ * x₃) * ((x₂ * y₃ + y₂ * x₃) * (y₂ * y₃ - x₂ * x₃) - x₂ * y₂) +
        y₁ * (x₂ * y₃ + y₂ * x₃) * ((y₂ * y₃ + x₂ * x₃) * (x₂ * y₃ - y₂ * x₃) - x₂ * y₂)) * h₁ +
    d * x₂ * y₂ *
      (x₁ * x₃ * y₃ * (y₂ * y₃ + x₂ * x₃) * (x₁ ^ 2 + 1) +
        y₁ * x₃ * y₃ * (x₂ * y₃ + y₂ * x₃) * (y₁ ^ 2 - 1) -
        x₁ ^ 2 * y₁ * (x₂ * x₃ * (x₃ ^ 2 + 1) + y₂ * y₃ * (y₃ ^ 2 - 1)) -
        x₁ * y₁ ^ 2 * (x₂ * y₃ * (y₃ ^ 2 - 1) + y₂ * x₃ * (x₃ ^ 2 + 1))) * h₂ -
    d * x₂ * y₂ *
      (d * x₂ ^ 2 * y₂ ^ 2 * x₁ * y₁ *
          (y₃ * (x₁ * y₂ + y₁ * x₂) - x₃ * (y₁ * y₂ + x₁ * x₂)) +
        x₃ * (y₁ * y₂ + x₁ * x₂) * ((x₁ * y₂ + y₁ * x₂) * (y₁ * y₂ - x₁ * x₂) - x₂ * y₂) +
        y₃ * (x₁ * y₂ + y₁ * x₂) * ((y₁ * y₂ + x₁ * x₂) * (y₁ * x₂ - x₁ * y₂) - x₂ * y₂)) * h₃

theorem cross_y (h₁ : OnCurve d x₁ y₁) (h₂ : OnCurve d x₂ y₂) (h₃ : OnCurve d x₃ y₃) :
    ((y₁ * y₂ + x₁ * x₂) * (1 + d * x₁ * x₂ * y₁ * y₂) * y₃ +
          (x₁ * y₂ + y₁ * x₂) * (1 - d * x₁ * x₂ * y₁ * y₂) * x₃) *
        ((1 + d * x₂ * x₃ * y₂ * y₃) * (1 - d * x₂ * x₃ * y₂ * y₃) -
          d * (x₂ * y₃ + y₂ * x₃) * x₁ * (y₂ * y₃ + x₂ * x₃) * y₁) =
      ((y₂ * y₃ + x₂ * x₃) * (1 + d * x₂ * x₃ * y₂ * y₃) * y₁ +
          (x₂ * y₃ + y₂ * x₃) * (1 - d * x₂ * x₃ * y₂ * y₃) * x₁) *
        ((1 + d * x₁ * x₂ * y₁ * y₂) * (1 - d * x₁ * x₂ * y₁ * y₂) -
          d * (x₁ * y₂ + y₁ * x₂) * x₃ * (y₁ * y₂ + x₁ * x₂) * y₃) := by
  unfold OnCurve at h₁ h₂ h₃
  linear_combination
    d * x₂ * y₂ *
      (d * x₂ ^ 2 * y₂ ^ 2 * x₃ * y₃ *
          (x₁ * (x₂ * y₃ + y₂ * x₃) - y₁ * (y₂ * y₃ + x₂ * x₃)) +
        x₁ * (x₂ * y₃ + y₂ * x₃) * ((y₂ * y₃ + x₂ * x₃) * (x₂ * y₃ - y₂ * x₃) - x₂ * y₂) +
        y₁ * (y₂ * y₃ + x₂ * x₃) * ((x₂ * y₃ + y₂ * x₃) * (y₂ * y₃ - x₂ * x₃) - x₂ * y₂)) * h₁ -
    d * x₂ * y₂ *
      (x₁ * x₃ * y₃ * (x₂ * y₃ + y₂ * x₃) * (x₁ ^ 2 + 1) +
        y₁ * x₃ * y₃ * (y₂ * y₃ + x₂ * x₃) * (y₁ ^ 2 - 1) -
        x₁ ^ 2 * y₁ * (x₂ * y₃ * (y₃ ^ 2 - 1) + y₂ * x₃ * (x₃ ^ 2 + 1)) -
        x₁ * y₁ ^ 2 * (x₂ * x₃ * (x₃ ^ 2 + 1) + y₂ * y₃ * (y₃ ^ 2 - 1))) * h₂ -
    d * x₂ * y₂ *
      (d * x₂ ^ 2 * y₂ ^ 2 * x₁ * y₁ *
          (x₃ * (x₁ * y₂ + y₁ * x₂) - y₃ * (y₁ * y₂ + x₁ * x₂)) +
        x₃ * (x₁ * y₂ + y₁ * x₂) * ((y₁ * y₂ + x₁ * x₂) * (y₁ * x₂ - x₁ * y₂) - x₂ * y₂) +
        y₃ * (y₁ * y₂ + x₁ * x₂) * ((x₁ * y₂ + y₁ * x₂) * (y₁ * y₂ - x₁ * x₂) - x₂ * y₂)) * h₃

theorem sum_rotate [IsComplete d] (h₁ : OnCurve d x₁ y₁) (h₂ : OnCurve d x₂ y₂)
    (h₃ : OnCurve d x₃ y₃) :
    sumX d (sumX d x₁ y₁ x₂ y₂) (sumY d x₁ y₁ x₂ y₂) x₃ y₃ =
        sumX d (sumX d x₂ y₂ x₃ y₃) (sumY d x₂ y₂ x₃ y₃) x₁ y₁ ∧
      sumY d (sumX d x₁ y₁ x₂ y₂) (sumY d x₁ y₁ x₂ y₂) x₃ y₃ =
        sumY d (sumX d x₂ y₂ x₃ y₃) (sumY d x₂ y₂ x₃ y₃) x₁ y₁ := by
  obtain ⟨p₁₂, q₁₂⟩ := denominators_ne_zero h₁ h₂
  obtain ⟨p₂₃, q₂₃⟩ := denominators_ne_zero h₂ h₃
  obtain ⟨plus, minus⟩ := denominators_div_ne_zero p₁₂ q₁₂ (onCurve_sum h₁ h₂) h₃
  obtain ⟨plus', minus'⟩ := denominators_div_ne_zero p₂₃ q₂₃ (onCurve_sum h₂ h₃) h₁
  constructor
  · exact (sumX_div p₁₂ q₁₂).trans
      (((div_eq_div_iff plus plus').2 (cross_x h₁ h₂ h₃)).trans (sumX_div p₂₃ q₂₃).symm)
  · exact (sumY_div p₁₂ q₁₂).trans
      (((div_eq_div_iff minus minus').2 (cross_y h₁ h₂ h₃)).trans (sumY_div p₂₃ q₂₃).symm)

@[ext]
structure Point (d : K) where
  x : K
  y : K
  onCurve : OnCurve d x y

namespace Point

instance : Zero (Point d) := ⟨0, 1, onCurve_zero_one⟩

instance : Neg (Point d) := ⟨fun P => ⟨-P.x, P.y, onCurve_neg P.onCurve⟩⟩

@[simp] theorem zero_x : (0 : Point d).x = 0 := rfl

@[simp] theorem zero_y : (0 : Point d).y = 1 := rfl

@[simp] theorem neg_x (P : Point d) : (-P).x = -P.x := rfl

@[simp] theorem neg_y (P : Point d) : (-P).y = P.y := rfl

variable [IsComplete d]

instance : Add (Point d) :=
  ⟨fun P Q => ⟨sumX d P.x P.y Q.x Q.y, sumY d P.x P.y Q.x Q.y, onCurve_sum P.onCurve Q.onCurve⟩⟩

theorem add_x (P Q : Point d) : (P + Q).x = sumX d P.x P.y Q.x Q.y := rfl

theorem add_y (P Q : Point d) : (P + Q).y = sumY d P.x P.y Q.x Q.y := rfl

theorem sum_comm (P Q : Point d) : P + Q = Q + P :=
  Point.ext (sumX_comm d P.x P.y Q.x Q.y) (sumY_comm d P.x P.y Q.x Q.y)

theorem sum_assoc (P Q R : Point d) : P + Q + R = P + (Q + R) := by
  obtain ⟨sameX, sameY⟩ := sum_rotate P.onCurve Q.onCurve R.onCurve
  rw [sum_comm P (Q + R)]
  exact Point.ext sameX sameY

theorem sum_zero (P : Point d) : P + 0 = P := by
  ext <;> simp [add_x, add_y, sumX, sumY]

theorem neg_sum_self (P : Point d) : -P + P = 0 := by
  have h := P.onCurve
  obtain ⟨-, minus⟩ := denominators_ne_zero (-P).onCurve h
  unfold OnCurve at h
  ext
  · rw [add_x, sumX, neg_x, neg_y, zero_x, neg_mul, mul_comm P.y, neg_add_cancel, zero_div]
  · rw [add_y, sumY, zero_y, div_eq_one_iff_eq minus, neg_x, neg_y]
    linear_combination h

instance : AddCommGroup (Point d) where
  add_assoc := sum_assoc
  zero_add P := by rw [sum_comm, sum_zero]
  add_zero := sum_zero
  nsmul := nsmulRec
  zsmul := zsmulRec
  neg_add_cancel := neg_sum_self
  add_comm := sum_comm

end Point

end LedgerWallet.Curve
