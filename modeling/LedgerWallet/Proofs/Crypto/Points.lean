import Mathlib.NumberTheory.LegendreSymbol.Basic
import LedgerWallet.Proofs.Bytes.Numbers
import LedgerWallet.Proofs.Crypto.Curve
import LedgerWallet.Proofs.Crypto.Primality

namespace LedgerWallet.Edwards

namespace Field

def value (x : Field) : ZMod prime := (x.val : ZMod prime)

theorem val_value (x : Field) : (value x).val = x.val :=
  ZMod.val_cast_of_lt x.isLt

theorem value_injective {x y : Field} (h : value x = value y) : x = y := by
  apply Fin.ext
  rw [← val_value, ← val_value, h]

@[simp] theorem value_add (x y : Field) : value (x + y) = value x + value y := by
  rw [value, Fin.val_add, ZMod.natCast_mod, Nat.cast_add]
  rfl

@[simp] theorem value_mul (x y : Field) : value (x * y) = value x * value y := by
  rw [value, Fin.val_mul, ZMod.natCast_mod, Nat.cast_mul]
  rfl

@[simp] theorem value_ofNat (n : ℕ) : value (ofNat n) = n := by
  rw [value, ofNat, Fin.val_ofNat, ZMod.natCast_mod]

@[simp] theorem value_sub (x y : Field) : value (x - y) = value x - value y := by
  rw [value, Fin.sub_def, ZMod.natCast_mod, Nat.cast_add, Nat.cast_sub y.isLt.le,
    ZMod.natCast_self, zero_sub, neg_add_eq_sub]
  rfl

@[simp] theorem value_neg (x : Field) : value (-x) = -value x := by
  rw [value, Fin.neg_def, ZMod.natCast_mod, Nat.cast_sub x.isLt.le, ZMod.natCast_self, zero_sub]
  rfl

theorem value_power (base : Field) {exponent : ℕ} (small : exponent < 2 ^ 256) :
    value (power base exponent) = value base ^ exponent := by
  have digits : value (power base exponent) = value base ^ (exponent % 2 ^ 256) := by
    apply foldr_bits (R := fun acc k => value acc = value base ^ k)
    · simp
    · intro bit acc k ih
      cases bit <;> simp [ih, pow_add, pow_mul', sq]
  rw [digits, Nat.mod_eq_of_lt small]

theorem value_inverse (x : Field) : value (inverse x) = (value x)⁻¹ := by
  have power : value (inverse x) = value x ^ (prime - 2) := value_power x (by decide)
  by_cases zero : value x = 0
  · rw [power, zero, inv_zero]
    exact zero_pow (by decide)
  · have fermat : value x ^ (prime - 1) = 1 := ZMod.pow_card_sub_one_eq_one zero
    apply eq_inv_of_mul_eq_one_left
    rw [power, ← pow_succ]
    exact fermat

end Field

open LedgerWallet.Edwards.Field

theorem two_ne_zero : (2 : ZMod prime) ≠ 0 := by
  intro zero
  have divides : prime ∣ 2 := (ZMod.natCast_eq_zero_iff 2 prime).1 (by exact_mod_cast zero)
  exact absurd (Nat.le_of_dvd (by decide) divides) (by decide)

theorem value_sqrtMinusOne : (-1 : ZMod prime) = value sqrtMinusOne * value sqrtMinusOne := by
  have square : sqrtMinusOne * sqrtMinusOne = -ofNat 1 := by decide +kernel
  rw [← value_mul, square, value_neg, value_ofNat, Nat.cast_one]

instance : Curve.IsComplete (value d) where
  two_ne_zero := two_ne_zero
  isSquare_neg_one := ⟨_, value_sqrtMinusOne⟩
  not_isSquare := by
    intro square
    have power : power d (prime / 2) = -ofNat 1 := by decide +kernel
    have half : value d ^ (prime / 2) = -1 := by
      rw [← value_power d (by decide), power, value_neg, value_ofNat, Nat.cast_one]
    have nonzero : value d ≠ 0 := by
      intro zero
      rw [zero, zero_pow (by decide)] at half
      exact one_ne_zero (neg_eq_zero.1 half.symm)
    have one := (ZMod.euler_criterion prime nonzero).1 square
    rw [half] at one
    apply two_ne_zero
    linear_combination -one

abbrev CurvePoint : Type := Curve.Point (value d)

/-- The extended coordinates belong to a point of the curve. -/
structure Represents (p : Point) (P : CurvePoint) : Prop where
  z_ne_zero : value p.z ≠ 0
  x_eq : value p.x = P.x * value p.z
  y_eq : value p.y = P.y * value p.z
  t_eq : value p.t = P.x * P.y * value p.z

variable {p q : Point} {P Q : CurvePoint}

theorem represents_ofAffine {x y : Field} (hx : value x = P.x) (hy : value y = P.y) :
    Represents (.ofAffine x y) P := by
  constructor <;> simp [Point.ofAffine, hx, hy]

theorem represents_identity : Represents .identity 0 :=
  represents_ofAffine (by simp) (by simp)

theorem Represents.neg (h : Represents p P) : Represents p.neg (-P) := by
  constructor
  · exact h.z_ne_zero
  · rw [Point.neg, value_neg, h.x_eq, Curve.Point.neg_x, neg_mul]
  · exact h.y_eq
  · rw [Point.neg, value_neg, h.t_eq, Curve.Point.neg_x, Curve.Point.neg_y, neg_mul, neg_mul]

theorem add_values (hp : Represents p P) (hq : Represents q Q) :
    let scale := 2 * value p.z * value q.z
    let product := value d * P.x * Q.x * P.y * Q.y
    value (p.add q).x = scale * (P.x * Q.y + P.y * Q.x) * (scale * (1 - product)) ∧
      value (p.add q).y = scale * (1 + product) * (scale * (P.y * Q.y + P.x * Q.x)) ∧
      value (p.add q).z = scale * (1 - product) * (scale * (1 + product)) ∧
      value (p.add q).t = scale * (P.x * Q.y + P.y * Q.x) * (scale * (P.y * Q.y + P.x * Q.x)) := by
  simp only [Point.add, value_mul, value_add, value_sub, hp.x_eq, hp.y_eq, hp.t_eq, hq.x_eq,
    hq.y_eq, hq.t_eq]
  refine ⟨?_, ?_, ?_, ?_⟩ <;> ring

theorem Represents.add (hp : Represents p P) (hq : Represents q Q) :
    Represents (p.add q) (P + Q) := by
  obtain ⟨plus, minus⟩ := Curve.denominators_ne_zero P.onCurve Q.onCurve
  have sumX : (P + Q).x * (1 + value d * P.x * Q.x * P.y * Q.y) = P.x * Q.y + P.y * Q.x :=
    div_mul_cancel₀ _ plus
  have sumY : (P + Q).y * (1 - value d * P.x * Q.x * P.y * Q.y) = P.y * Q.y + P.x * Q.x :=
    div_mul_cancel₀ _ minus
  obtain ⟨x, y, z, t⟩ := add_values hp hq
  have scale : 2 * value p.z * value q.z ≠ 0 :=
    mul_ne_zero (mul_ne_zero two_ne_zero hp.z_ne_zero) hq.z_ne_zero
  constructor
  · rw [z]
    exact mul_ne_zero (mul_ne_zero scale minus) (mul_ne_zero scale plus)
  · rw [x, z, ← sumX]
    ring
  · rw [y, z, ← sumY]
    ring
  · rw [t, z, ← sumX, ← sumY]
    ring

theorem Represents.scale (h : Represents p P) {factor : ℕ} (small : factor < 2 ^ 256) :
    Represents (p.scale factor) (factor • P) := by
  have digits : Represents (p.scale factor) ((factor % 2 ^ 256) • P) := by
    apply foldr_bits (R := fun acc k => Represents acc (k • P))
    · rw [zero_nsmul]
      exact represents_identity
    · intro bit acc k ih
      have twice : Represents (acc.add acc) ((2 * k) • P) := by
        rw [two_mul, add_nsmul]
        exact ih.add ih
      cases bit with
      | false => exact twice
      | true =>
        rw [Bool.toNat_true, add_nsmul, one_nsmul]
        exact twice.add h
  rwa [Nat.mod_eq_of_lt small] at digits

def encoding (P : CurvePoint) : FixedBytes 32 :=
  FixedBytes.littleEndian 32 (P.y.val + Nat.pow 2 255 * (P.x.val % 2))

theorem Represents.encode (h : Represents p P) : p.encode = encoding P := by
  have x : value (p.x * inverse p.z) = P.x := by
    rw [value_mul, value_inverse, h.x_eq, mul_inv_cancel_right₀ h.z_ne_zero]
  have y : value (p.y * inverse p.z) = P.y := by
    rw [value_mul, value_inverse, h.y_eq, mul_inv_cancel_right₀ h.z_ne_zero]
  rw [encoding, ← x, ← y, val_value, val_value]
  rfl

theorem number_encoding (P : CurvePoint) :
    ByteString.ofLittleEndian (encoding P).toList = P.y.val + Nat.pow 2 255 * (P.x.val % 2) := by
  have bound : P.y.val < Nat.pow 2 255 := lt_trans (ZMod.val_lt P.y) (by decide)
  have parity := Nat.mod_two_eq_zero_or_one P.x.val
  have top : Nat.pow 2 255 * (P.x.val % 2) ≤ Nat.pow 2 255 := by
    rcases parity with even | odd
    · rw [even]
      exact Nat.zero_le _
    · rw [odd, Nat.mul_one]
  have small : P.y.val + Nat.pow 2 255 * (P.x.val % 2) < 256 ^ 32 :=
    lt_of_lt_of_le (Nat.add_lt_add_of_lt_of_le bound top) (by decide)
  exact (ByteString.ofLittleEndian_littleEndian 32 _).trans (Nat.mod_eq_of_lt small)

theorem val_neg_of_odd {r : Field} (odd : r.val % 2 = 1) : (-r).val % 2 = 0 := by
  have bound := r.isLt
  have primeOdd : prime % 2 = 1 := by decide
  have small : prime - r.val < prime := by omega
  rw [Fin.neg_def]
  change (prime - r.val) % prime % 2 = 0
  rw [Nat.mod_eq_of_lt small]
  omega

theorem even_choice (r : Field) :
    (if r.val % 2 = 0 then r else -r).val % 2 = 0 ∧
      ((if r.val % 2 = 0 then r else -r) = r ∨ (if r.val % 2 = 0 then r else -r) = -r) := by
  split
  · exact ⟨‹_›, Or.inl rfl⟩
  · exact ⟨val_neg_of_odd (Nat.mod_two_ne_zero.1 ‹_›), Or.inr rfl⟩

def candidate (u v : Field) : Field :=
  u * (v * v * v) * power (u * (v * v * v) * (v * v * v) * v) ((prime - 5) / 8)

theorem sqrtRatio?_eq (u v : Field) : sqrtRatio? u v =
    (if v * candidate u v * candidate u v = u then some (candidate u v)
      else if v * candidate u v * candidate u v = -u then some (candidate u v * sqrtMinusOne)
      else none).map fun r => if r.val % 2 = 0 then r else -r := rfl

/-- Eight divides `p - 5`, so the square of the candidate differs from `u / v` by a sign when that is
a square. -/
theorem check_eq_or_neg {u v : Field} {x : ZMod prime} (nonzero : value v ≠ 0)
    (h : value u = x ^ 2 * value v) :
    value (v * candidate u v * candidate u v) = value u ∨
      value (v * candidate u v * candidate u v) = -value u := by
  have fermat : value v ^ (prime - 1) = 1 := ZMod.pow_card_sub_one_eq_one nonzero
  have check : value (v * candidate u v * candidate u v) =
      x ^ (prime / 2) * (value v ^ (prime - 1)) ^ 2 * value u := by
    obtain ⟨m, same, exponent⟩ : ∃ m, prime = 8 * m + 5 ∧ (prime - 5) / 8 = m :=
      ⟨(prime - 5) / 8, by decide, rfl⟩
    have half : prime / 2 = 4 * m + 2 := by omega
    have all : prime - 1 = 8 * m + 4 := by omega
    have small : m < 2 ^ 256 := by
      rw [← exponent]
      decide
    simp only [candidate, value_mul, exponent, value_power _ small, half, all, h]
    ring
  rw [check, fermat, one_pow, mul_one]
  by_cases zero : x = 0
  · left
    simp [h, zero]
  · rcases ZMod.pow_div_two_eq_neg_one_or_one prime zero with sign | sign
    · left
      rw [sign, one_mul]
    · right
      rw [sign, neg_one_mul]

theorem sqrtRatio?_of_square {u v : Field} {x : ZMod prime} (nonzero : value v ≠ 0)
    (h : value u = x ^ 2 * value v) :
    ∃ r, sqrtRatio? u v = some r ∧ r.val % 2 = 0 ∧ (value r = x ∨ value r = -x) := by
  have check := check_eq_or_neg nonzero h
  rw [sqrtRatio?_eq]
  generalize candidate u v = root at check ⊢
  have found (c : Field) (square : value v * value c ^ 2 = value v * x ^ 2) :
      ∃ r, (some c).map (fun r => if r.val % 2 = 0 then r else -r) = some r ∧ r.val % 2 = 0 ∧
        (value r = x ∨ value r = -x) := by
    obtain ⟨even, choice⟩ := even_choice c
    refine ⟨_, rfl, even, sq_eq_sq_iff_eq_or_eq_neg.1 ?_⟩
    have square := mul_left_cancel₀ nonzero square
    dsimp only
    rcases choice with same | opposite
    · rw [same, square]
    · rw [opposite, value_neg, neg_sq, square]
  by_cases isRoot : v * root * root = u
  · rw [if_pos isRoot]
    apply found
    have turned : value v * value root * value root = x ^ 2 * value v := by
      rw [← h, ← value_mul, ← value_mul, isRoot]
    linear_combination turned
  · have isOpposite : v * root * root = -u := by
      rcases check with same | opposite
      · exact absurd (value_injective same) isRoot
      · exact value_injective (by rw [opposite, value_neg])
    rw [if_neg isRoot, if_pos isOpposite]
    apply found
    have turned : value v * value root * value root = -(x ^ 2 * value v) := by
      rw [← h, ← value_mul, ← value_mul, isOpposite, value_neg]
    rw [value_mul]
    linear_combination value sqrtMinusOne ^ 2 * turned + x ^ 2 * value v * value_sqrtMinusOne

theorem value_of_parity {r : Field} {x : ZMod prime} (even : r.val % 2 = 0)
    (h : value r = x ∨ value r = -x) : value (if x.val % 2 = 1 then -r else r) = x := by
  have val_r := val_value r
  by_cases odd : x.val % 2 = 1
  · rw [if_pos odd, value_neg]
    rcases h with same | opposite
    · rw [← same] at odd
      omega
    · rw [opposite, neg_neg]
  · rw [if_neg odd]
    rcases h with same | opposite
    · exact same
    · by_cases zero : x = 0
      · rw [opposite, zero, neg_zero]
      · have bound := ZMod.val_lt x
        have primeOdd : prime % 2 = 1 := by decide
        rw [opposite, ZMod.neg_val, if_neg zero] at val_r
        omega

theorem divisor_ne_zero (y : ZMod prime) : value d * y ^ 2 + 1 ≠ 0 := by
  intro zero
  have square : value sqrtMinusOne ^ 2 = value d * y ^ 2 := by
    linear_combination -zero - value_sqrtMinusOne
  by_cases y0 : y = 0
  · simp [y0] at zero
  · exact Curve.IsComplete.not_isSquare (Curve.isSquare_of_sq_eq_mul_sq square y0)

theorem abscissa_of_ordinate {y : Field} (h : value y = P.y) :
    ∃ r, sqrtRatio? (y * y - ofNat 1) (d * (y * y) + ofNat 1) = some r ∧ r.val % 2 = 0 ∧
      (value r = P.x ∨ value r = -P.x) := by
  have divisor : value (d * (y * y) + ofNat 1) = value d * P.y ^ 2 + 1 := by
    rw [value_add, value_mul, value_mul, value_ofNat, h, Nat.cast_one, sq]
  apply sqrtRatio?_of_square
  · rw [divisor]
    exact divisor_ne_zero P.y
  · have onCurve := P.onCurve
    unfold Curve.OnCurve at onCurve
    rw [divisor, value_sub, value_mul, value_ofNat, h, Nat.cast_one]
    linear_combination onCurve

theorem decode?_eq (bytes : FixedBytes 32) :
    let number := ByteString.ofLittleEndian bytes.toList
    let y := ofNat (number % Nat.pow 2 255)
    Point.decode? bytes = (sqrtRatio? (y * y - ofNat 1) (d * (y * y) + ofNat 1)).map fun x =>
      .ofAffine (if number / Nat.pow 2 255 = 1 then -x else x) y := rfl

theorem decode?_encoding (P : CurvePoint) :
    ∃ q, Point.decode? (encoding P) = some q ∧ Represents q P := by
  have bound : P.y.val < Nat.pow 2 255 := lt_trans (ZMod.val_lt P.y) (by decide)
  have read := decode?_eq (encoding P)
  dsimp only at read
  rw [number_encoding, Nat.add_mul_mod_self_left, Nat.mod_eq_of_lt bound,
    Nat.add_mul_div_left _ _ (by decide), Nat.div_eq_of_lt bound, Nat.zero_add] at read
  have value_y : value (ofNat P.y.val) = P.y := by
    rw [value_ofNat, ZMod.natCast_zmod_val]
  obtain ⟨r, root, even, sign⟩ := abscissa_of_ordinate value_y
  rw [root] at read
  exact ⟨_, read, represents_ofAffine (value_of_parity even sign) value_y⟩

end LedgerWallet.Edwards
