import Mathlib.Data.List.Prime
import Mathlib.NumberTheory.LucasPrimality
import Mathlib.Tactic.NormNum.Prime
import LedgerWallet.Crypto.Edwards

namespace LedgerWallet.Edwards

theorem foldr_bits {α : Type} {R : α → ℕ → Prop} {step : Bool → α → α} {start : α}
    (first : R start 0) (next : ∀ bit acc k, R acc k → R (step bit acc) (2 * k + bit.toNat))
    (width n : ℕ) : R ((Field.bits width n).foldr step start) (n % 2 ^ width) := by
  induction width generalizing n with
  | zero =>
    rw [pow_zero, Nat.mod_one]
    exact first
  | succ width ih =>
    have digits : n % 2 ^ (width + 1) = 2 * (n / 2 % 2 ^ width) + (n % 2 == 1).toNat := by
      rw [Nat.pow_succ', Nat.mod_mul]
      rcases Nat.mod_two_eq_zero_or_one n with low | low
      · simp [low]
      · simp [low, Nat.add_comm]
    rw [digits]
    exact next _ _ _ (ih (n / 2))

def powMod (p base exponent : ℕ) : ℕ :=
  (Field.bits 256 exponent).foldr (fun bit acc =>
    let square := acc * acc % p
    if bit then square * base % p else square) (1 % p)

theorem powMod_eq (p base : ℕ) {exponent : ℕ} (small : exponent < 2 ^ 256) :
    (powMod p base exponent : ZMod p) = (base : ZMod p) ^ exponent := by
  have power : (powMod p base exponent : ZMod p) = (base : ZMod p) ^ (exponent % 2 ^ 256) := by
    apply foldr_bits (R := fun (acc : ℕ) k => (acc : ZMod p) = (base : ZMod p) ^ k)
    · rw [ZMod.natCast_mod, Nat.cast_one, pow_zero]
    · intro bit acc k ih
      cases bit <;>
        simp [ZMod.natCast_mod, ih, pow_add, pow_mul', sq]
  rw [power, Nat.mod_eq_of_lt small]

/-- The root has the order `p - 1`, as far as the powers at the quotients by the factors tell. -/
def isRoot (p root : ℕ) (factors : List ℕ) : Bool :=
  p < 2 ^ 256 && factors.prod == p - 1 && powMod p root (p - 1) % p == 1 % p &&
    factors.all fun q => powMod p root ((p - 1) / q) % p != 1 % p

theorem pow_eq_one_iff (p root : ℕ) {n : ℕ} (small : n < 2 ^ 256) :
    (root : ZMod p) ^ n = 1 ↔ powMod p root n % p = 1 % p := by
  rw [← powMod_eq p root small, ← Nat.cast_one, ZMod.natCast_eq_natCast_iff']

theorem prime_of_isRoot {p : ℕ} (root : ℕ) (factors : List ℕ)
    (primes : ∀ q ∈ factors, q.Prime) (order : isRoot p root factors = true) : p.Prime := by
  simp only [isRoot, Bool.and_eq_true, decide_eq_true_eq, beq_iff_eq, List.all_eq_true,
    bne_iff_ne] at order
  obtain ⟨⟨⟨small, product⟩, one⟩, others⟩ := order
  apply lucas_primality p root
  · exact (pow_eq_one_iff p root (by omega)).2 one
  · intro q prime divides
    rw [← product] at divides
    obtain ⟨r, member, divides⟩ := (Prime.dvd_prod_iff prime.prime).1 divides
    have same : q = r := (Nat.prime_dvd_prime_iff_eq prime (primes r member)).1 divides
    have quotient : (p - 1) / q ≤ p - 1 := Nat.div_le_self _ _
    rw [Ne, pow_eq_one_iff p root (by omega), same]
    exact others r member

theorem prime_2773320623 : Nat.Prime 2773320623 := by
  apply prime_of_isRoot 5 [2, 2437, 569003]
  · norm_num
  · decide +kernel

theorem prime_72106336199 : Nat.Prime 72106336199 := by
  apply prime_of_isRoot 7 [2, 13, 2773320623]
  · simp only [List.forall_mem_cons, prime_2773320623]
    norm_num
  · decide +kernel

theorem prime_1919519569386763 : Nat.Prime 1919519569386763 := by
  apply prime_of_isRoot 2 [2, 3, 7, 19, 47, 47, 127, 8574133]
  · norm_num
  · decide +kernel

theorem prime_31757755568855353 : Nat.Prime 31757755568855353 := by
  apply prime_of_isRoot 10 [2, 2, 2, 3, 31, 107, 223, 4153, 430751]
  · norm_num
  · decide +kernel

theorem prime_75445702479781427272750846543864801 :
    Nat.Prime 75445702479781427272750846543864801 := by
  apply prime_of_isRoot 7 [2, 2, 2, 2, 2, 3, 3, 5, 5, 75707, 72106336199, 1919519569386763]
  · simp only [List.forall_mem_cons, prime_72106336199, prime_1919519569386763]
    norm_num
  · decide +kernel

theorem prime_largestFactor :
    Nat.Prime 74058212732561358302231226437062788676166966415465897661863160754340907 := by
  apply prime_of_isRoot 2 [2, 3, 353, 57467, 132049, 1923133, 31757755568855353,
    75445702479781427272750846543864801]
  · simp only [List.forall_mem_cons, prime_31757755568855353,
      prime_75445702479781427272750846543864801]
    norm_num
  · decide +kernel

theorem prime_prime : prime.Prime := by
  apply prime_of_isRoot 2 [2, 2, 3, 65147,
    74058212732561358302231226437062788676166966415465897661863160754340907]
  · simp only [List.forall_mem_cons, prime_largestFactor]
    norm_num
  · decide +kernel

instance : Fact prime.Prime := ⟨prime_prime⟩

end LedgerWallet.Edwards
