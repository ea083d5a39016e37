import Mathlib.Algebra.Group.Nat.Defs
import LedgerWallet.Proofs.Results
import LedgerWallet.Text.Numeral

namespace LedgerWallet.Numeral

def IsDigits (chars : List Char) : Prop := chars ≠ [] ∧ ∀ c ∈ chars, c.isDigit = true

theorem isDigits_iff_all {chars : List Char} :
    (!chars.isEmpty && chars.all Char.isDigit) = true ↔ IsDigits chars := by
  rw [Bool.and_eq_true, Bool.not_eq_true', List.isEmpty_eq_false_iff, List.all_eq_true]
  rfl

instance (chars : List Char) : Decidable (IsDigits chars) :=
  decidable_of_iff _ isDigits_iff_all

def valueOf (digits : List Char) : Nat := Nat.ofDigitChars 10 digits 0

theorem isDigit_iff {c : Char} : c.isDigit = true ↔ '0' ≤ c ∧ c ≤ '9' := by
  simp [Char.isDigit, Char.le_def]

theorem digitValue?_eq_some_iff {c : Char} {d : Nat} :
    digitValue? c = some d ↔ c.isDigit = true ∧ c.toNat - 48 = d := by
  rw [isDigit_iff, digitValue?]
  split
  · rename_i inRange
    simp [inRange]
  · rename_i outside
    simp [outside]

theorem digitValue?_of_isDigit {c : Char} (h : c.isDigit = true) :
    digitValue? c = some (c.toNat - 48) :=
  digitValue?_eq_some_iff.2 ⟨h, rfl⟩

theorem le_ofDigitChars (digits : List Char) (value : Nat) :
    value ≤ Nat.ofDigitChars 10 digits value := by
  induction digits generalizing value with
  | nil => exact Nat.le_refl _
  | cons c digits ih =>
    have more := ih (10 * value + (c.toNat - '0'.toNat))
    rw [Nat.ofDigitChars_cons]
    omega

theorem readDigits_eq_ok_iff {bound value n : Nat} {chars : List Char} (below : value < bound) :
    readDigits bound chars value = .ok n ↔
      (∀ c ∈ chars, c.isDigit = true) ∧ Nat.ofDigitChars 10 chars value = n ∧ n < bound := by
  induction chars generalizing value with
  | nil =>
    simp only [readDigits, Nat.ofDigitChars_nil, Except.ok.injEq]
    constructor
    · rintro rfl
      exact ⟨by simp, rfl, below⟩
    · exact fun h => h.2.1
  | cons c chars ih =>
    rw [readDigits]
    cases digit : digitValue? c with
    | none =>
      have noDigit : c.isDigit ≠ true := by
        intro isDigit
        rw [digitValue?_of_isDigit isDigit] at digit
        cases digit
      simp [noDigit]
    | some d =>
      obtain ⟨isDigit, same⟩ := digitValue?_eq_some_iff.1 digit
      have next : Nat.ofDigitChars 10 (c :: chars) value =
          Nat.ofDigitChars 10 chars (10 * value + d) := by
        rw [Nat.ofDigitChars_cons, ← same]
        rfl
      dsimp only
      rw [next]
      split
      · rename_i fits
        simp [ih fits, isDigit]
      · rename_i tooLarge
        have least := le_ofDigitChars chars (10 * value + d)
        constructor
        · intro h
          cases h
        · rintro ⟨_, rfl, fits⟩
          omega

theorem readDigits_zero_eq_ok_iff {bound n : Nat} {chars : List Char} (positive : 0 < bound)
    (some : chars ≠ []) :
    readDigits bound chars 0 = .ok n ↔ IsDigits chars ∧ valueOf chars = n ∧ n < bound := by
  rw [readDigits_eq_ok_iff positive]
  simp [IsDigits, valueOf, some]

theorem readChars_digits {bound : Nat} {digits : List Char} (h : IsDigits digits) :
    readChars bound digits = readDigits bound digits 0 := by
  have noDigit : ¬ ('+'.isDigit = true) := by decide
  unfold readChars
  split
  · exact absurd rfl h.1
  · exact absurd (h.2 '+' List.mem_cons_self) noDigit
  · exact absurd (h.2 '+' List.mem_cons_self) noDigit
  · rfl

theorem readChars_plus {bound : Nat} {digits : List Char} (some : digits ≠ []) :
    readChars bound ('+' :: digits) = readDigits bound digits 0 := by
  cases digits with
  | nil => exact absurd rfl some
  | cons c digits => rfl

theorem read_eq_ok_iff {bound n : Nat} {text : String} (positive : 0 < bound) :
    read bound text = .ok n ↔
      ∃ digits, (text.toList = digits ∨ text.toList = '+' :: digits) ∧ IsDigits digits ∧
        valueOf digits = n ∧ n < bound := by
  constructor
  · intro h
    unfold read readChars at h
    split at h
    · cases h
    · cases h
    · rename_i rest notAlone signed
      have some : rest ≠ [] := fun empty => notAlone (by rw [empty])
      exact ⟨rest, Or.inr signed, (readDigits_zero_eq_ok_iff positive some).1 h⟩
    · rename_i nonempty _ _
      exact ⟨text.toList, Or.inl rfl, (readDigits_zero_eq_ok_iff positive nonempty).1 h⟩
  · rintro ⟨digits, spelled, isDigits, value⟩
    have taken : readDigits bound digits 0 = .ok n :=
      (readDigits_zero_eq_ok_iff positive isDigits.1).2 ⟨isDigits, value⟩
    rcases spelled with same | same
    · rw [read, same, readChars_digits isDigits, taken]
    · rw [read, same, readChars_plus isDigits.1, taken]

def Spells (text : String) (n : Nat) : Prop :=
  ∃ digits, (text.toList = digits ∨ text.toList = '+' :: digits) ∧ IsDigits digits ∧
    valueOf digits = n

theorem readWord_eq_ok_iff {text : String} {n : UInt64} :
    readWord text = .ok n ↔ Spells text n.toNat := by
  have positive : 0 < Nat.pow 2 64 := by decide
  constructor
  · intro h
    obtain ⟨value, taken, rfl⟩ := map_ok h
    obtain ⟨digits, signed, isDigits, same, fits⟩ := (read_eq_ok_iff positive).1 taken
    rw [UInt64.toNat_ofNat_of_lt' fits]
    exact ⟨digits, signed, isDigits, same⟩
  · rintro ⟨digits, signed, isDigits, same⟩
    have taken : read (Nat.pow 2 64) text = .ok n.toNat :=
      (read_eq_ok_iff positive).2 ⟨digits, signed, isDigits, same, n.toNat_lt⟩
    rw [readWord, taken, Except.map, UInt64.ofNat_toNat]

theorem exists_readWord_iff {text : String} :
    (∃ n, readWord text = .ok n) ↔ ∃ n < 2 ^ 64, Spells text n := by
  constructor
  · rintro ⟨n, read⟩
    exact ⟨n.toNat, n.toNat_lt, readWord_eq_ok_iff.1 read⟩
  · rintro ⟨n, fits, spelled⟩
    refine ⟨UInt64.ofNat n, readWord_eq_ok_iff.2 ?_⟩
    rwa [UInt64.toNat_ofNat_of_lt' fits]

theorem isDigits_chars (n : Nat) : IsDigits (chars n) :=
  ⟨Nat.toDigits_ne_nil, fun _ member => Nat.isDigit_of_mem_toDigits (by decide) (by decide) member⟩

theorem valueOf_chars (n : Nat) : valueOf (chars n) = n := Nat.ofDigitChars_ten_toDigits

theorem spells_write (n : Nat) : Spells (write n) n :=
  ⟨chars n, Or.inl String.toList_ofList, isDigits_chars n, valueOf_chars n⟩

theorem head?_chars {n : Nat} (positive : 0 < n) : (chars n).head? ≠ some '0' := by
  induction n using Nat.strongRecOn with
  | ind n ih =>
    rw [chars, Nat.toDigits_eq_if (by decide)]
    split
    · rename_i small
      rw [List.head?_cons, ne_eq, Option.some.injEq, Nat.digitChar_eq_zero]
      omega
    · rename_i large
      have shorter := ih (n / 10) (by omega) (by omega)
      cases front : Nat.toDigits 10 (n / 10) with
      | nil => exact absurd front Nat.toDigits_ne_nil
      | cons c digits =>
        rw [chars, front] at shorter
        exact shorter

theorem valueOf_cons (c : Char) (digits : List Char) :
    valueOf (c :: digits) = 10 ^ digits.length * (c.toNat - 48) + valueOf digits := by
  rw [valueOf, Nat.ofDigitChars_cons, Nat.ofDigitChars_eq_ofDigitChars_zero, Nat.mul_zero,
    Nat.zero_add]
  rfl

theorem toNat_of_isDigit {c : Char} (h : c.isDigit = true) : 48 ≤ c.toNat ∧ c.toNat ≤ 57 :=
  isDigit_iff.1 h

theorem valueOf_lt {digits : List Char} (isDigit : ∀ c ∈ digits, c.isDigit = true) :
    valueOf digits < 10 ^ digits.length := by
  induction digits with
  | nil => exact Nat.one_pos
  | cons c digits ih =>
    obtain ⟨first, others⟩ := List.forall_mem_cons.1 isDigit
    obtain ⟨low, high⟩ := toNat_of_isDigit first
    have digit : 10 ^ digits.length * (c.toNat - 48) ≤ 10 ^ digits.length * 9 :=
      Nat.mul_le_mul_left _ (by omega)
    have later := ih others
    rw [valueOf_cons, List.length_cons, Nat.pow_succ]
    omega

theorem eq_of_valueOf_eq {a b : List Char} (isDigit : ∀ c ∈ a, c.isDigit = true)
    (isDigit' : ∀ c ∈ b, c.isDigit = true) (length : a.length = b.length)
    (value : valueOf a = valueOf b) : a = b := by
  induction a generalizing b with
  | nil => exact (List.length_eq_zero_iff.1 length.symm).symm
  | cons c a ih =>
    cases b with
    | nil => cases length
    | cons d b =>
      obtain ⟨first, others⟩ := List.forall_mem_cons.1 isDigit
      obtain ⟨first', others'⟩ := List.forall_mem_cons.1 isDigit'
      have same : a.length = b.length := Nat.succ.inj length
      have below := valueOf_lt others
      have below' := valueOf_lt others'
      rw [valueOf_cons, valueOf_cons, same] at value
      rw [same] at below
      -- The first digit is the quotient, and the later digits have the remainder as their value.
      have quotient := congrArg (· / 10 ^ b.length) value
      have remainder := congrArg (· % 10 ^ b.length) value
      simp only [Nat.mul_add_div (Nat.pow_pos (Nat.succ_pos 9)), Nat.div_eq_of_lt below,
        Nat.div_eq_of_lt below', Nat.add_zero] at quotient
      simp only [Nat.mul_add_mod, Nat.mod_eq_of_lt below, Nat.mod_eq_of_lt below'] at remainder
      obtain ⟨low, -⟩ := toNat_of_isDigit first
      obtain ⟨low', -⟩ := toNat_of_isDigit first'
      have head : c = d := Char.toNat_inj.1 (by omega)
      rw [head, ih others others' same remainder]

/-- The numeral of a number: its digits, without a zero in front of other digits. -/
structure IsNumeral (digits : List Char) (n : Nat) : Prop where
  isDigits : IsDigits digits
  value : valueOf digits = n
  noZero : digits.head? = some '0' → digits = ['0']

theorem isNumeral_chars (n : Nat) : IsNumeral (chars n) n := by
  refine ⟨isDigits_chars n, valueOf_chars n, fun zero => ?_⟩
  rcases Nat.eq_zero_or_pos n with rfl | positive
  · rfl
  · exact absurd zero (head?_chars positive)

theorem IsNumeral.lower {c : Char} {digits : List Char} {n : Nat} (h : IsNumeral (c :: digits) n)
    (other : c ≠ '0') : 10 ^ digits.length ≤ n := by
  obtain ⟨low, -⟩ := toNat_of_isDigit (h.isDigits.2 c List.mem_cons_self)
  have positive : c.toNat ≠ 48 := fun zero => other (Char.toNat_inj.1 zero)
  have digit : 10 ^ digits.length * 1 ≤ 10 ^ digits.length * (c.toNat - 48) :=
    Nat.mul_le_mul_left _ (by omega)
  rw [← h.value, valueOf_cons]
  omega

theorem IsNumeral.length_le {a b : List Char} {n : Nat} (h : IsNumeral a n) (h' : IsNumeral b n) :
    a.length ≤ b.length := by
  cases a with
  | nil => exact Nat.zero_le _
  | cons c digits =>
    by_cases zero : c = '0'
    · rw [h.noZero (congrArg some zero)]
      exact List.length_pos_iff.2 h'.isDigits.1
    · have least := h.lower zero
      have bound := valueOf_lt h'.isDigits.2
      rw [h'.value] at bound
      exact (Nat.pow_lt_pow_iff_right (by decide)).1 (Nat.lt_of_le_of_lt least bound)

theorem isNumeral_iff {digits : List Char} {n : Nat} : IsNumeral digits n ↔ digits = chars n := by
  constructor
  · intro h
    have written := isNumeral_chars n
    exact eq_of_valueOf_eq h.isDigits.2 written.isDigits.2
      (Nat.le_antisymm (h.length_le written) (written.length_le h))
      (h.value.trans written.value.symm)
  · rintro rfl
    exact isNumeral_chars n

theorem writePadded_eq_iff {width n : Nat} (positive : 0 < width) (fits : n < 10 ^ width)
    {digits : List Char} : writePadded width n = String.ofList digits ↔
      IsDigits digits ∧ digits.length = width ∧ valueOf digits = n := by
  have short : (chars n).length ≤ width := (Nat.length_toDigits_le_iff (by decide) positive).2 fits
  have isDigit : ∀ c ∈ List.replicate (width - (chars n).length) '0' ++ chars n,
      c.isDigit = true := by
    refine List.forall_mem_append.2 ⟨fun c member => ?_, (isDigits_chars n).2⟩
    rw [List.eq_of_mem_replicate member]
    rfl
  have length : (List.replicate (width - (chars n).length) '0' ++ chars n).length = width := by
    rw [List.length_append, List.length_replicate]
    omega
  have value : valueOf (List.replicate (width - (chars n).length) '0' ++ chars n) = n := by
    rw [valueOf, Nat.ofDigitChars_append, Nat.ofDigitChars_replicate_zero]
    exact valueOf_chars n
  rw [writePadded, String.ofList_inj]
  constructor
  · rintro rfl
    have nonempty := List.ne_nil_of_length_pos (Nat.lt_of_lt_of_eq positive length.symm)
    exact ⟨⟨nonempty, isDigit⟩, length, value⟩
  · rintro ⟨isDigits, length', value'⟩
    exact eq_of_valueOf_eq isDigit isDigits.2 (length.trans length'.symm)
      (value.trans value'.symm)

end LedgerWallet.Numeral
