import LedgerWallet.Proofs.Json.Compact
import LedgerWallet.Proofs.Json.Recognition
import LedgerWallet.Proofs.Json.Records

namespace LedgerWallet.Json

open Numeral

variable {chars rest digits : List Char} {n m : Nat}

theorem isNumeral_iff_integerText :
    IsNumeral digits n ↔ IntegerText digits ∧ valueOf digits = n := by
  constructor
  · intro h
    refine ⟨?_, h.value⟩
    by_cases zero : digits.head? = some '0'
    · exact Or.inl (h.noZero zero)
    · exact Or.inr ⟨h.isDigits, zero⟩
  · intro h
    obtain ⟨isInteger, value⟩ := h
    rcases isInteger with rfl | ⟨isDigits, noZero⟩
    · exact ⟨by decide, value, fun _ => rfl⟩
    · exact ⟨isDigits, value, fun zero => absurd zero noZero⟩

theorem floatOfParts_ne_natural {isNegative : Bool} {exponent : Int} :
    floatOfParts isNegative n exponent chars ≠ .ok (.natural m, rest) := by
  intro h
  unfold floatOfParts at h
  split at h <;> cases h

theorem readExponent_ne_natural {isNegative : Bool} {exponent : Int} :
    readExponent isNegative n exponent chars ≠ .ok (.natural m, rest) := by
  intro h
  unfold readExponent at h
  dsimp only at h
  split at h
  · cases h
  · split at h
    · cases h
    · split at h
      · exact floatOfParts_ne_natural h
      · -- The sign of the exponent first, then whether it is too large.
        split at h
        all_goals
          split at h <;> cases h

theorem readDecimals_ne_natural {isNegative : Bool} {exponent : Int} :
    readDecimals isNegative n exponent chars ≠ .ok (.natural m, rest) := by
  intro h
  unfold readDecimals at h
  split at h
  · dsimp only at h
    unfold readExponentOrEnd at h
    split at h
    · exact readExponent_ne_natural h
    · exact readExponent_ne_natural h
    · exact floatOfParts_ne_natural h
  · split at h <;> cases h

theorem readFraction_natural {isNegative : Bool} {dropped : Nat}
    (h : readFraction isNegative n dropped chars = .ok (.natural m, rest)) :
    isNegative = false ∧ dropped = 0 ∧ m = n ∧ chars = rest ∧
      ∀ c, rest.head? = some c → c ≠ '.' ∧ c ≠ 'e' ∧ c ≠ 'E' := by
  unfold readFraction at h
  split at h
  · exact absurd h readDecimals_ne_natural
  · exact absurd h readExponent_ne_natural
  · exact absurd h readExponent_ne_natural
  · rename_i notDot notSmall notLarge
    split at h
    · rename_i all
      obtain ⟨same, rfl⟩ := Prod.mk.inj (Except.ok.inj h)
      unfold integerNumber at same
      split at same
      · rename_i positive
        cases same
        refine ⟨by simpa using positive, all, rfl, rfl, ?_⟩
        intro c head
        obtain ⟨tail, rfl⟩ := List.head?_eq_some_iff.1 head
        exact ⟨fun dot => notDot tail (by rw [dot]), fun small => notSmall tail (by rw [small]),
          fun large => notLarge tail (by rw [large])⟩
      · split at same <;> cases same
    · exact absurd h floatOfParts_ne_natural

theorem digits_of_takeDigits {value taken count : Nat}
    (h : takeDigits chars value taken = (n, count, rest)) (fits : value < significandBound) :
    ∃ digits, chars = digits ++ rest ∧ (∀ c ∈ digits, c.isDigit = true) ∧
      Nat.ofDigitChars 10 digits value = n ∧ n < significandBound := by
  induction chars generalizing value taken with
  | nil =>
    cases h
    exact ⟨[], rfl, by simp, rfl, fits⟩
  | cons c chars ih =>
    rw [takeDigits] at h
    split at h
    · rename_i d digit
      split at h
      · rename_i small
        obtain ⟨digits, rfl, isDigits, same, below⟩ := ih h small
        obtain ⟨isDigit, rfl⟩ := digitValue?_eq_some_iff.1 digit
        refine ⟨c :: digits, rfl, List.forall_mem_cons.2 ⟨isDigit, isDigits⟩, ?_, below⟩
        rw [Nat.ofDigitChars_cons]
        exact same
      · cases h
        exact ⟨[], rfl, by simp, rfl, fits⟩
    · cases h
      exact ⟨[], rfl, by simp, rfl, fits⟩

theorem readUnsigned_natural {isNegative : Bool}
    (h : readUnsigned isNegative chars = .ok (.natural n, rest)) :
    isNegative = false ∧ n < significandBound ∧ EndsNumeral rest ∧
      ∃ digits, IsNumeral digits n ∧ chars = digits ++ rest := by
  unfold readUnsigned at h
  split at h
  · cases h
  · split at h
    · cases h
    · rename_i noDigit
      obtain ⟨positive, -, rfl, rfl, noMark⟩ := readFraction_natural h
      exact ⟨positive, by decide, ⟨by simpa using noDigit, noMark⟩, ['0'],
        isNumeral_chars 0, rfl⟩
  · rename_i c tail notZero
    split at h
    · rename_i first
      generalize taken : takeDigits (c :: tail) 0 0 = part at h
      obtain ⟨value, count, behind⟩ := part
      dsimp only at h
      obtain ⟨positive, all, rfl, same, noMark⟩ := readFraction_natural h
      obtain ⟨digits, whole, isDigits, valued, below⟩ := digits_of_takeDigits taken (by decide)
      -- No digit was dropped, so what is behind the digits begins with none.
      rw [all, List.drop_zero] at same
      subst same
      have noDigit : startsWithDigit behind = false := by
        cases behind with
        | nil => rfl
        | cons d behind =>
          rw [List.length_eq_zero_iff, List.takeWhile_eq_nil_iff] at all
          simpa [startsWithDigit] using all
      have some : digits ≠ [] := by
        intro none
        rw [none, List.nil_append] at whole
        rw [← whole] at noDigit
        exact absurd (first.symm.trans noDigit) (by decide)
      refine ⟨positive, below, ⟨noDigit, noMark⟩, digits, ⟨⟨some, isDigits⟩, valued, ?_⟩, whole⟩
      intro zero
      obtain ⟨others, spelled⟩ := List.head?_eq_some_iff.1 zero
      rw [spelled, List.cons_append] at whole
      exact absurd (List.cons.inj whole).1 notZero
    · cases h

theorem readNumber_eq_natural_iff :
    readNumber chars = .ok (.natural n, rest) ↔ n < significandBound ∧ EndsNumeral rest ∧
      ∃ digits, IsNumeral digits n ∧ chars = digits ++ rest := by
  constructor
  · intro h
    unfold readNumber at h
    split at h
    · obtain ⟨positive, -⟩ := readUnsigned_natural h
      cases positive
    · exact (readUnsigned_natural h).2
  · intro h
    obtain ⟨fits, ends, digits, isNumeral, rfl⟩ := h
    rw [isNumeral_iff.1 isNumeral]
    exact readNumber_natural fits ends

variable {range : Bounded} {space : List Char}

theorem valueText_of_isNumeral (h : IsNumeral digits n) : ValueText digits :=
  .number ⟨[], digits, [], [], Or.inl rfl, (isNumeral_iff_integerText.1 h).1, Or.inl rfl,
    Or.inl rfl, by simp⟩

theorem bounded_read_eq_ok_iff (fits : range.bound ≤ significandBound) :
    range.read chars = .ok (n, rest) ↔ ∃ space digits, Blank space ∧ IsNumeral digits n ∧
      n < range.bound ∧ EndsNumeral rest ∧ chars = space ++ digits ++ rest := by
  constructor
  · intro h
    obtain ⟨space, blank, front⟩ := eq_of_skipSpace chars
    unfold Bounded.read at h
    split at h
    · rename_i c behind same
      split at h
      · obtain ⟨⟨number, left⟩, read, h⟩ := bind_ok h
        dsimp only at h
        split at h
        · rename_i value checked
          cases h
          obtain ⟨rfl, below⟩ := check_eq_ok_iff.1 checked
          obtain ⟨-, ends, digits, isNumeral, spelled⟩ := readNumber_eq_natural_iff.1 read
          refine ⟨space, digits, blank, isNumeral, below, ends, ?_⟩
          rw [front, same, spelled, List.append_assoc]
        · cases h
      · exact absurd h (failMismatch_ne_ok _ _ _)
    · exact absurd h (failMismatch_ne_ok _ _ _)
  · intro h
    obtain ⟨space, digits, blank, isNumeral, below, ends, rfl⟩ := h
    obtain ⟨c, others, rfl, digit⟩ := (isNumeral_iff_integerText.1 isNumeral).1.head
    have first : (decide (c = '-') || isDigit c) = true := by
      rw [isDigit_eq, digit, Bool.or_true]
    have read : readNumber (c :: others ++ rest) = .ok (.natural n, rest) :=
      readNumber_eq_natural_iff.2 ⟨by omega, ends, c :: others, isNumeral, rfl⟩
    have checked : range.check (.natural n) = .ok n := check_eq_ok_iff.2 ⟨rfl, below⟩
    unfold Bounded.read
    rw [List.append_assoc, List.cons_append, skipSpace_mark blank (mark_ne_digit digit).1]
    dsimp only
    rw [if_pos first, ← List.cons_append, read]
    simp only [bind, Except.bind, checked]

theorem bounded_accepts (fits : range.bound ≤ significandBound) :
    Accepts range.read fun text n => IsNumeral text n ∧ n < range.bound := by
  constructor
  · intro chars n rest read
    obtain ⟨space, digits, blank, isNumeral, below, -, whole⟩ :=
      (bounded_read_eq_ok_iff fits).1 read
    exact ⟨space, digits, blank, ⟨isNumeral, below⟩, whole⟩
  · intro space text n rest blank spelled stop
    exact (bounded_read_eq_ok_iff fits).2
      ⟨space, text, blank, spelled.1, spelled.2, stop.endsNumeral, rfl⟩

def WordText (text : List Char) (word : UInt64) : Prop := IsNumeral text word.toNat

theorem word_read_eq_ok_iff {word : UInt64} :
    Shape.word.read chars = .ok (word, rest) ↔ wordRange.read chars = .ok (word.toNat, rest) := by
  constructor
  · intro h
    obtain ⟨⟨n, left⟩, read, h⟩ := bind_ok h
    obtain ⟨-, -, -, -, below, -, -⟩ := (bounded_read_eq_ok_iff (Nat.le_refl _)).1 read
    cases h
    rw [UInt64.toNat_ofNat_of_lt' below]
    exact read
  · intro read
    simp only [Shape.word, read, bind, Except.bind, UInt64.ofNat_toNat]

theorem word_accepts : Accepts Shape.word.read WordText := by
  have numbers : Accepts wordRange.read fun text n => IsNumeral text n ∧ n < wordRange.bound :=
    bounded_accepts (Nat.le_refl _)
  constructor
  · intro chars word rest read
    obtain ⟨space, text, blank, spelled, whole⟩ := numbers.sound (word_read_eq_ok_iff.1 read)
    exact ⟨space, text, blank, spelled.1, whole⟩
  · intro space text word rest blank spelled stop
    exact word_read_eq_ok_iff.2 (numbers.complete blank ⟨spelled, word.toNat_lt⟩ stop)

theorem Ends.delimited (h : Ends rest) : Delimited rest := by
  intro c head
  rcases h c head with rfl | rfl
  · exact Or.inr (Or.inl rfl)
  · exact Or.inl rfl

theorem word_readsAs (word : UInt64) : ReadsAs Shape.word.read (Numeral.chars word.toNat) word := by
  intro space rest blank ends
  exact word_accepts.complete blank (isNumeral_chars word.toNat) ends.delimited

end LedgerWallet.Json
