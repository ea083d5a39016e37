import LedgerWallet.Bytes.Hex
import LedgerWallet.Proofs.Results
import LedgerWallet.Text.Blank

namespace LedgerWallet.Hex

theorem digitValue?_digitChar : ∀ d < 16, digitValue? (Nat.digitChar d) = some d := by
  decide

theorem digitChar_ne_mark : ∀ d < 16, Nat.digitChar d ≠ 'x' := by
  decide

theorem digitChar_size : ∀ d < 16, (Nat.digitChar d).utf8Size = 1 := by
  decide

theorem nibbles (byte : UInt8) : byte.toNat / 16 < 16 ∧ byte.toNat % 16 < 16 := by
  have bound := byte.toNat_lt
  omega

theorem nibbles_join (byte : UInt8) :
    UInt8.ofNat (16 * (byte.toNat / 16) + byte.toNat % 16) = byte := by
  have same : 16 * (byte.toNat / 16) + byte.toNat % 16 = byte.toNat := by omega
  rw [same, UInt8.ofNat_toNat]

theorem decodePairs_encodeChars (bytes : ByteString) (position : Nat) :
    decodePairs (encodeChars bytes) position = .ok bytes := by
  induction bytes generalizing position with
  | nil => rfl
  | cons byte bytes ih =>
    obtain ⟨high, low⟩ := nibbles byte
    have rest := ih (position + 2)
    simp only [encodeChars] at rest
    simp only [encodeChars, List.flatMap_cons, encodeByte, List.cons_append, List.nil_append,
      decodePairs, digitValue?_digitChar _ high, digitValue?_digitChar _ low, rest,
      nibbles_join]
    rfl

theorem size_encodeChars (bytes : ByteString) : Utf8.size (encodeChars bytes) = 2 * bytes.length := by
  induction bytes with
  | nil => rfl
  | cons byte bytes ih =>
    obtain ⟨high, low⟩ := nibbles byte
    simp only [Utf8.size, encodeChars, List.flatMap_cons, encodeByte, List.cons_append,
      List.nil_append, digitChar_size _ high, digitChar_size _ low, List.length_cons] at ih ⊢
    omega

theorem decode_encode (bytes : ByteString) : decode (encode bytes) = .ok bytes := by
  have even : Utf8.size (encodeChars bytes) % 2 ≠ 1 := by
    rw [size_encodeChars]
    omega
  rw [decode, encode, String.toList_ofList, if_neg even]
  exact decodePairs_encodeChars bytes 0

theorem decodeFixed?_encode {n : Nat} (bytes : FixedBytes n) :
    decodeFixed? n (encode bytes.toList) = some bytes := by
  rw [decodeFixed?, decode_encode]
  exact bytes.ofList?_toList

theorem dropHexMark_encode (bytes : ByteString) :
    Text.dropHexMark (encode bytes) = encode bytes := by
  have unmarked : Text.dropStart? ['0', 'x'] (encode bytes).toList = none := by
    rw [encode, String.toList_ofList]
    cases bytes with
    | nil => rfl
    | cons byte bytes =>
      obtain ⟨-, low⟩ := nibbles byte
      have ne := (digitChar_ne_mark _ low).symm
      simp only [encodeChars, List.flatMap_cons, encodeByte, List.cons_append, List.nil_append,
        Text.dropStart?, ne, ↓reduceIte, ite_self]
  rw [Text.dropHexMark, unmarked]

def Spells : List Char → ByteString → Prop
  | [], [] => True
  | high :: low :: digits, byte :: bytes =>
    digitValue? high = some (byte.toNat / 16) ∧ digitValue? low = some (byte.toNat % 16) ∧
      Spells digits bytes
  | _, _ => False

theorem digitValue?_range {c : Char} {d : Nat} (h : digitValue? c = some d) :
    d < 16 ∧ c.toNat < 128 := by
  unfold digitValue? at h
  split at h
  · rename_i range
    have low : 48 ≤ c.toNat := range.1
    have high : c.toNat ≤ 57 := range.2
    cases h
    omega
  · split at h
    · rename_i range
      have low : 97 ≤ c.toNat := range.1
      have high : c.toNat ≤ 102 := range.2
      cases h
      omega
    · split at h
      · rename_i range
        have low : 65 ≤ c.toNat := range.1
        have high : c.toNat ≤ 70 := range.2
        cases h
        omega
      · cases h

def IsDigit (c : Char) : Prop := '0' ≤ c ∧ c ≤ '9' ∨ 'a' ≤ c ∧ c ≤ 'f' ∨ 'A' ≤ c ∧ c ≤ 'F'

instance (c : Char) : Decidable (IsDigit c) := inferInstanceAs (Decidable (_ ∨ _))

theorem exists_digitValue_iff {c : Char} : (∃ d, digitValue? c = some d) ↔ IsDigit c := by
  unfold digitValue? IsDigit
  split
  · rename_i decimal
    simp [decimal]
  · rename_i noDecimal
    split
    · rename_i small
      simp [small]
    · rename_i noSmall
      split
      · rename_i large
        simp [large]
      · rename_i noLarge
        simp [noDecimal, noSmall, noLarge]

theorem not_spells_mark {rest : List Char} {bytes : ByteString} :
    ¬Spells ('0' :: 'x' :: rest) bytes := by
  intro h
  cases bytes with
  | nil => exact h.elim
  | cons byte bytes => exact absurd h.2.1 (by simp [digitValue?])

theorem length_of_spells {digits : List Char} {bytes : ByteString} (h : Spells digits bytes) :
    digits.length = 2 * bytes.length := by
  fun_induction Spells digits bytes with
  | case1 => rfl
  | case2 high low digits byte bytes ih =>
    have more := ih h.2.2
    simp only [List.length_cons]
    omega
  | case3 => exact h.elim

theorem isDigit_of_spells {digits : List Char} {bytes : ByteString} (h : Spells digits bytes) :
    ∀ c ∈ digits, IsDigit c := by
  fun_induction Spells digits bytes with
  | case1 => simp
  | case2 high low digits byte bytes ih =>
    obtain ⟨first, second, rest⟩ := h
    have others : ∀ c ∈ low :: digits, IsDigit c :=
      List.forall_mem_cons.2 ⟨exists_digitValue_iff.1 ⟨_, second⟩, ih rest⟩
    exact List.forall_mem_cons.2 ⟨exists_digitValue_iff.1 ⟨_, first⟩, others⟩
  | case3 => exact h.elim

theorem size_of_spells {digits : List Char} {bytes : ByteString} (h : Spells digits bytes) :
    Utf8.size digits = 2 * bytes.length := by
  fun_induction Spells digits bytes with
  | case1 => rfl
  | case2 high low digits byte bytes ih =>
    obtain ⟨first, second, rest⟩ := h
    have ascii : ∀ c : Char, c.toNat < 128 → c.utf8Size = 1 := by
      intro c small
      exact Char.utf8Size_eq_one_iff.2 (by
        rw [UInt32.le_iff_toNat_le]
        exact Nat.le_of_lt_succ small)
    simp only [Utf8.size, List.length_cons, ascii _ (digitValue?_range first).2,
      ascii _ (digitValue?_range second).2] at ih ⊢
    have more := ih rest
    omega
  | case3 => exact h.elim

theorem nibbles_eq_iff {high low : Nat} (first : high < 16) (second : low < 16) {byte : UInt8} :
    UInt8.ofNat (16 * high + low) = byte ↔ high = byte.toNat / 16 ∧ low = byte.toNat % 16 := by
  rw [← UInt8.toNat_inj, UInt8.toNat_ofNat_of_lt' (show 16 * high + low < 256 by omega)]
  omega

theorem exists_spells : ∀ {digits : List Char}, digits.length % 2 = 0 → (∀ c ∈ digits, IsDigit c) →
    ∃ bytes, Spells digits bytes
  | [], _, _ => ⟨[], trivial⟩
  | [_], even, _ => absurd even (by simp)
  | high :: low :: digits, even, all => by
    obtain ⟨h, first⟩ := exists_digitValue_iff.2 (all high (by simp))
    obtain ⟨l, second⟩ := exists_digitValue_iff.2 (all low (by simp))
    have rest : ∀ c ∈ digits, IsDigit c := fun c member => all c (by simp [member])
    have shorter : digits.length % 2 = 0 := by
      simp only [List.length_cons] at even
      omega
    obtain ⟨bytes, spelled⟩ := exists_spells shorter rest
    obtain ⟨above, below⟩ := (nibbles_eq_iff (digitValue?_range first).1
      (digitValue?_range second).1).1 (Eq.refl (UInt8.ofNat (16 * h + l)))
    exact ⟨UInt8.ofNat (16 * h + l) :: bytes, above ▸ first, below ▸ second, spelled⟩

theorem decodePairs_eq_ok_iff (position : Nat) {digits : List Char} {bytes : ByteString} :
    decodePairs digits position = .ok bytes ↔ Spells digits bytes := by
  fun_induction decodePairs digits position generalizing bytes with
  | case1 => cases bytes <;> simp [Spells]
  | case2 => cases bytes <;> simp [Spells]
  | case3 high low rest position noDigit =>
    cases bytes <;> simp [Spells, noDigit]
  | case4 high low rest position d noDigit digit =>
    cases bytes <;> simp [Spells, noDigit, digit]
  | case5 high low rest position h l second first ih =>
    have bound := (digitValue?_range first).1
    have bound' := (digitValue?_range second).1
    cases bytes with
    | nil =>
      constructor
      · intro decoded
        obtain ⟨_, _, same⟩ := map_ok decoded
        cases same
      · exact False.elim
    | cons byte bytes =>
      rw [Spells, first, second, Option.some.injEq, Option.some.injEq, ← and_assoc,
        ← nibbles_eq_iff bound bound', ← ih]
      constructor
      · intro decoded
        obtain ⟨others, read, same⟩ := map_ok decoded
        cases same
        exact ⟨rfl, read⟩
      · rintro ⟨rfl, read⟩
        rw [read]
        rfl

theorem spells_encodeChars (bytes : ByteString) : Spells (encodeChars bytes) bytes :=
  (decodePairs_eq_ok_iff 0).1 (decodePairs_encodeChars bytes 0)

theorem decode_eq_ok_iff {text : String} {bytes : ByteString} :
    decode text = .ok bytes ↔ Spells text.toList bytes := by
  rw [← decodePairs_eq_ok_iff 0, decode]
  split
  · rename_i odd
    constructor
    · intro h
      cases h
    · intro h
      have even := size_of_spells ((decodePairs_eq_ok_iff 0).1 h)
      omega
  · rfl

theorem decodeFixed?_eq_some_iff {n : Nat} {text : String} {bytes : FixedBytes n} :
    decodeFixed? n text = some bytes ↔ Spells text.toList bytes.toList := by
  rw [← decode_eq_ok_iff, decodeFixed?]
  cases decode text with
  | error error => simp
  | ok found =>
    constructor
    · intro h
      rw [FixedBytes.toList_of_ofList? h]
    · intro h
      cases h
      exact bytes.ofList?_toList

end LedgerWallet.Hex
