import LedgerWallet.Crypto.Ed25519
import LedgerWallet.Proofs.Crypto.Points

namespace LedgerWallet

namespace Edwards

open LedgerWallet.Edwards.Field

def basePoint : CurvePoint where
  x := value Point.base.x
  y := value Point.base.y
  onCurve := by
    have onCurve : Point.base.y * Point.base.y - Point.base.x * Point.base.x =
        ofNat 1 + d * (Point.base.x * Point.base.x) * (Point.base.y * Point.base.y) := by
      decide +kernel
    have h := congrArg value onCurve
    simp only [value_sub, value_mul, value_add, value_ofNat, Nat.cast_one] at h
    unfold Curve.OnCurve
    linear_combination h

theorem represents_base : Represents .base basePoint :=
  represents_ofAffine rfl rfl

theorem order_nsmul_basePoint : order • basePoint = 0 := by
  have multiple : Represents (Point.base.scale order) (order • basePoint) :=
    represents_base.scale (by decide)
  have x : (Point.base.scale order).x = ofNat 0 := by decide +kernel
  have y : (Point.base.scale order).y = (Point.base.scale order).z := by decide +kernel
  have x_eq := multiple.x_eq
  have y_eq := multiple.y_eq
  rw [x, value_ofNat, Nat.cast_zero] at x_eq
  rw [y] at y_eq
  ext
  · exact (mul_eq_zero.1 x_eq.symm).resolve_right multiple.z_ne_zero
  · exact (mul_right_cancel₀ multiple.z_ne_zero ((one_mul _).trans y_eq)).symm

theorem encode_of_response {point : Point} {secret nonce challenge : ℕ}
    (key : Represents point (secret • basePoint)) (nonceLt : nonce < order)
    (challengeLt : challenge < order) :
    ((Point.base.scale ((nonce + challenge * secret) % order)).add
      (point.neg.scale challenge)).encode = (Point.base.scale nonce).encode := by
  have small {n : ℕ} (h : n < order) : n < 2 ^ 256 := h.trans (by decide)
  have responseLt : (nonce + challenge * secret) % order < order := Nat.mod_lt _ (by decide)
  have sum := (represents_base.scale (small responseLt)).add (key.neg.scale (small challengeLt))
  have same : ((nonce + challenge * secret) % order) • basePoint +
      challenge • -(secret • basePoint) = nonce • basePoint := by
    rw [← nsmul_eq_mod_nsmul _ order_nsmul_basePoint, add_nsmul, mul_nsmul', neg_nsmul,
      add_neg_cancel_right]
  rw [same] at sum
  exact sum.encode.trans (represents_base.scale (small nonceLt)).encode.symm

end Edwards

namespace Ed25519

open Edwards

theorem factor_lt (message : ByteString) : factor message < order :=
  Nat.mod_lt _ (by decide)

theorem secretFactor_lt (seed : Seed) : secretFactor seed < 2 ^ 256 := by
  unfold secretFactor
  generalize number ((sha512 seed.toList).toList.take 32) = low
  have below : low % Nat.pow 2 254 < Nat.pow 2 254 := Nat.mod_lt _ (by decide)
  have cleared : low % Nat.pow 2 254 / 8 * 8 ≤ low % Nat.pow 2 254 := Nat.div_mul_le_self _ _
  have top : Nat.pow 2 254 + Nat.pow 2 254 ≤ 2 ^ 256 := by decide
  dsimp only
  omega

theorem verify_of_parts {key : PublicKey} {message : ByteString} {signature : Signature}
    {point : Point} {commitment : FixedBytes 32} {response : ℕ} (responseLt : response < order)
    (parts : signature.bytes.toList =
      commitment.toList ++ (FixedBytes.littleEndian 32 response).toList)
    (read : Point.decode? key = some point)
    (expected : ((Point.base.scale response).add (point.neg.scale
      (factor (commitment.toList ++ key.toList ++ message)))).encode = commitment) :
    verify key message signature = true := by
  have front : signature.bytes.toList.take 32 = commitment.toList := by
    rw [parts, List.take_left' commitment.length_toList]
  have back : number (signature.bytes.toList.drop 32) = response := by
    have small : response < 256 ^ 32 := responseLt.trans (by decide)
    rw [parts, List.drop_left' commitment.length_toList]
    exact (ByteString.ofLittleEndian_littleEndian 32 response).trans (Nat.mod_eq_of_lt small)
  unfold verify
  simp only [front, back, read, expected, responseLt, decide_true, BEq.rfl, Bool.and_self]

/-- What is signed with a seed is accepted under its public key. -/
theorem verify_sign (seed : Seed) (message : ByteString) :
    verify (publicKey seed) message (sign seed message) = true := by
  have key : publicKey seed = encoding (secretFactor seed • basePoint) :=
    (represents_base.scale (secretFactor_lt seed)).encode
  obtain ⟨point, read, stands⟩ := decode?_encoding (secretFactor seed • basePoint)
  rw [← key] at read
  apply verify_of_parts (Nat.mod_lt _ (by decide)) rfl read
  exact encode_of_response stands (factor_lt _) (factor_lt _)

end Ed25519

end LedgerWallet
