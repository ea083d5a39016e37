import Mathlib.Algebra.Group.Nat.Defs
import LedgerWallet.Bytes

namespace LedgerWallet.ByteString

theorem ofLittleEndian_lt (bytes : ByteString) : ofLittleEndian bytes < 256 ^ bytes.length := by
  induction bytes with
  | nil => decide
  | cons byte bytes ih =>
    have bound := byte.toNat_lt
    rw [ofLittleEndian, List.length_cons, Nat.pow_succ]
    omega

theorem ofLittleEndian_littleEndian (width number : Nat) :
    ofLittleEndian (littleEndian width number) = number % 256 ^ width := by
  induction width generalizing number with
  | zero => exact (Nat.mod_one number).symm
  | succ width ih =>
    have low : (UInt8.ofNat number).toNat = number % 256 := UInt8.toNat_ofNat'
    rw [littleEndian, ofLittleEndian, ih, low, Nat.pow_succ', Nat.mod_mul]

theorem littleEndian_ofLittleEndian (bytes : ByteString) :
    littleEndian bytes.length (ofLittleEndian bytes) = bytes := by
  induction bytes with
  | nil => rfl
  | cons byte bytes ih =>
    have bound := byte.toNat_lt
    have low : UInt8.ofNat (byte.toNat + 256 * ofLittleEndian bytes) = byte := by
      apply UInt8.toNat_inj.1
      rw [UInt8.toNat_ofNat']
      omega
    have rest : (byte.toNat + 256 * ofLittleEndian bytes) / 256 = ofLittleEndian bytes := by omega
    rw [List.length_cons, ofLittleEndian, littleEndian, low, rest, ih]

theorem ofLittleEndian_append (low high : ByteString) :
    ofLittleEndian (low ++ high) = ofLittleEndian low + 256 ^ low.length * ofLittleEndian high := by
  induction low with
  | nil => simp [ofLittleEndian]
  | cons byte low ih =>
    rw [List.cons_append, ofLittleEndian, ofLittleEndian, ih, List.length_cons, Nat.pow_succ',
      Nat.mul_add, Nat.add_assoc, Nat.mul_assoc]

theorem ofLittleEndian_zeros (count : Nat) : ofLittleEndian (List.replicate count 0) = 0 := by
  induction count with
  | zero => rfl
  | succ count ih =>
    rw [List.replicate_succ, ofLittleEndian, ih]
    rfl

theorem ofBigEndian_append (high low : ByteString) :
    ofBigEndian (high ++ low) = 256 ^ low.length * ofBigEndian high + ofBigEndian low := by
  rw [ofBigEndian, ofBigEndian, ofBigEndian, List.reverse_append, ofLittleEndian_append,
    List.length_reverse, Nat.add_comm]

theorem ofBigEndian_lt (bytes : ByteString) : ofBigEndian bytes < 256 ^ bytes.length := by
  have bound := ofLittleEndian_lt bytes.reverse
  rwa [List.length_reverse] at bound

theorem ofBigEndian_bigEndian (width number : Nat) :
    ofBigEndian (bigEndian width number) = number % 256 ^ width := by
  rw [ofBigEndian, bigEndian, List.reverse_reverse, ofLittleEndian_littleEndian]

theorem bigEndian_ofBigEndian (bytes : ByteString) :
    bigEndian bytes.length (ofBigEndian bytes) = bytes := by
  have spelled := littleEndian_ofLittleEndian bytes.reverse
  rw [List.length_reverse] at spelled
  rw [bigEndian, ofBigEndian, spelled, List.reverse_reverse]

theorem ofBigEndian_suffix (n : Nat) (bytes : ByteString) :
    ofBigEndian (FixedBytes.suffix n bytes).toList = ofBigEndian bytes % 256 ^ n := by
  have zeros : ofBigEndian (List.replicate (n - bytes.length) 0) = 0 := by
    rw [ofBigEndian, List.reverse_replicate, ofLittleEndian_zeros]
  have last : ofBigEndian (FixedBytes.suffix n bytes).toList =
      ofBigEndian (bytes.drop (bytes.length - n)) := by
    rw [FixedBytes.suffix, ofBigEndian_append, zeros, Nat.mul_zero, Nat.zero_add]
  have bound := ofBigEndian_lt (bytes.drop (bytes.length - n))
  rw [last]
  rw [List.length_drop] at bound
  by_cases long : n ≤ bytes.length
  · have width : (bytes.drop (bytes.length - n)).length = n := by
      rw [List.length_drop]
      omega
    have parts := ofBigEndian_append (bytes.take (bytes.length - n)) (bytes.drop (bytes.length - n))
    rw [List.take_append_drop, width] at parts
    rw [show bytes.length - (bytes.length - n) = n by omega] at bound
    rw [parts, Nat.mul_add_mod, Nat.mod_eq_of_lt bound]
  · have whole : bytes.length - n = 0 := by omega
    have wider : 256 ^ bytes.length ≤ 256 ^ n := Nat.pow_le_pow_right (by decide) (by omega)
    rw [whole, Nat.sub_zero, List.drop_zero] at bound
    rw [whole, List.drop_zero, Nat.mod_eq_of_lt (Nat.lt_of_lt_of_le bound wider)]

end LedgerWallet.ByteString
