import Mathlib.Data.List.TakeWhile
import LedgerWallet.Proofs.Json.Strings

namespace LedgerWallet.Json

open Numeral

variable {chars rest text digits : List Char} {c : Char}

/-- What may stand behind a value: white space, a comma, a closing mark or nothing. -/
def Delimited (rest : List Char) : Prop :=
  ∀ c, rest.head? = some c → isSpace c = true ∨ c = ',' ∨ c = ']' ∨ c = '}'

theorem isDigit_eq (c : Char) : isDigit c = c.isDigit := by
  rw [isDigit]
  cases digit : c.isDigit with
  | true => rw [digitValue?_of_isDigit digit, Option.isSome_some]
  | false =>
    cases value : digitValue? c with
    | none => rfl
    | some d =>
      rw [(digitValue?_eq_some_iff.1 value).1] at digit
      cases digit

theorem digits_of_startsWithDigit (h : startsWithDigit chars = true) :
    ∃ digits, IsDigits digits ∧ digits.head? = chars.head? ∧
      chars = digits ++ chars.dropWhile isDigit := by
  cases chars with
  | nil => cases h
  | cons c rest =>
    have first : isDigit c = true := h
    refine ⟨(c :: rest).takeWhile isDigit, ⟨by simp [first], ?_⟩, by simp [first],
      List.takeWhile_append_dropWhile.symm⟩
    intro d member
    rw [← isDigit_eq]
    exact List.mem_takeWhile_imp member

theorem startsWithDigit_append (h : IsDigits digits) (rest : List Char) :
    startsWithDigit (digits ++ rest) = true := by
  obtain ⟨nonempty, isDigits⟩ := h
  cases digits with
  | nil => exact absurd rfl nonempty
  | cons c digits =>
    rw [List.cons_append, startsWithDigit, isDigit_eq]
    exact isDigits c List.mem_cons_self

theorem dropWhile_digits (h : IsDigits digits) (stop : startsWithDigit rest = false) :
    (digits ++ rest).dropWhile isDigit = rest := by
  have all : ∀ c ∈ digits, isDigit c = true := fun c member => isDigit_eq c ▸ h.2 c member
  rw [List.dropWhile_append_of_pos all]
  cases rest with
  | nil => rfl
  | cons c rest => exact List.dropWhile_cons_of_neg (by rw [show isDigit c = false from stop]; simp)

theorem Delimited.marks (h : Delimited (c :: rest)) :
    isDigit c = false ∧ c ≠ '.' ∧ c ≠ 'e' ∧ c ≠ 'E' := by
  have delimiter := h c rfl
  simp only [isSpace, Bool.or_eq_true, decide_eq_true_eq] at delimiter
  rcases delimiter with (((rfl | rfl) | rfl) | rfl) | rfl | rfl | rfl
  all_goals decide

theorem Delimited.noDigit (h : Delimited rest) : startsWithDigit rest = false := by
  cases rest with
  | nil => rfl
  | cons c rest => exact h.marks.1

structure EndsNumeral (rest : List Char) : Prop where
  noDigit : startsWithDigit rest = false
  noMark : ∀ c, rest.head? = some c → c ≠ '.' ∧ c ≠ 'e' ∧ c ≠ 'E'

theorem Delimited.endsNumeral (h : Delimited rest) : EndsNumeral rest := by
  refine ⟨h.noDigit, fun c head => ?_⟩
  obtain ⟨tail, rfl⟩ := List.head?_eq_some_iff.1 head
  exact h.marks.2

theorem ExponentText.noDigit {exponent : List Char} (h : ExponentText exponent)
    (stop : Delimited rest) : startsWithDigit (exponent ++ rest) = false := by
  rcases h with rfl | ⟨mark, sign, digits, rfl | rfl, -, -, rfl⟩
  · exact stop.noDigit
  · rfl
  · rfl

theorem FractionText.noDigit {fraction exponent : List Char} (h : FractionText fraction)
    (h' : ExponentText exponent) (stop : Delimited rest) :
    startsWithDigit (fraction ++ (exponent ++ rest)) = false := by
  rcases h with rfl | ⟨digits, -, rfl⟩
  · exact h'.noDigit stop
  · rfl

theorem exponentText_of_skipExponent {mark : Char} (isMark : mark = 'e' ∨ mark = 'E')
    (h : skipExponent chars = .ok rest) :
    ∃ exponent, ExponentText exponent ∧ mark :: chars = exponent ++ rest := by
  have digits : ∀ {sign chars}, (sign = [] ∨ sign = ['+'] ∨ sign = ['-']) →
      (if startsWithDigit chars then Except.ok (chars.dropWhile isDigit)
        else failBehind .invalidNumber chars) = .ok rest →
      ∃ exponent, ExponentText exponent ∧ mark :: (sign ++ chars) = exponent ++ rest := by
    intro sign chars isSign h
    split at h
    · rename_i start
      cases h
      obtain ⟨digits, isDigits, -, whole⟩ := digits_of_startsWithDigit start
      refine ⟨mark :: (sign ++ digits),
        Or.inr ⟨mark, sign, digits, isMark, isSign, isDigits, rfl⟩, ?_⟩
      conv_lhs => rw [whole]
      simp
    · cases h
  unfold skipExponent at h
  split at h
  · exact digits (Or.inr (Or.inl rfl)) h
  · exact digits (Or.inr (Or.inr rfl)) h
  · exact digits (Or.inl rfl) h

theorem skipExponent_of_digits {sign : List Char} (isSign : sign = [] ∨ sign = ['+'] ∨ sign = ['-'])
    (isDigits : IsDigits digits) (stop : Delimited rest) :
    skipExponent (sign ++ digits ++ rest) = .ok rest := by
  have start := startsWithDigit_append isDigits rest
  have passed := dropWhile_digits isDigits stop.noDigit
  unfold skipExponent
  rcases isSign with rfl | rfl | rfl
  · -- Digits do not begin with a sign.
    rw [List.nil_append]
    split
    · rename_i same
      rw [same] at start
      cases start
    · rename_i same
      rw [same] at start
      cases start
    · rw [if_pos start, passed]
  · simp only [List.cons_append, List.nil_append, start, passed, if_pos]
  · simp only [List.cons_append, List.nil_append, start, passed, if_pos]

theorem fraction_of_skipFraction (h : skipFraction chars = .ok rest) :
    ∃ fraction exponent, FractionText fraction ∧ ExponentText exponent ∧
      chars = fraction ++ (exponent ++ rest) := by
  unfold skipFraction at h
  split at h
  · split at h
    · rename_i start
      obtain ⟨digits, isDigits, -, whole⟩ := digits_of_startsWithDigit start
      have isFraction : FractionText ('.' :: digits) := Or.inr ⟨digits, isDigits, rfl⟩
      split at h
      · rename_i behind same
        obtain ⟨exponent, isExponent, left⟩ := exponentText_of_skipExponent (Or.inl rfl) h
        exact ⟨_, exponent, isFraction, isExponent, by rw [whole, same, left]; rfl⟩
      · rename_i behind same
        obtain ⟨exponent, isExponent, left⟩ := exponentText_of_skipExponent (Or.inr rfl) h
        exact ⟨_, exponent, isFraction, isExponent, by rw [whole, same, left]; rfl⟩
      · rename_i other other'
        cases h
        exact ⟨_, [], isFraction, Or.inl rfl, congrArg (List.cons '.') whole⟩
    · cases h
  · obtain ⟨exponent, isExponent, left⟩ := exponentText_of_skipExponent (Or.inl rfl) h
    exact ⟨[], exponent, Or.inl rfl, isExponent, left⟩
  · obtain ⟨exponent, isExponent, left⟩ := exponentText_of_skipExponent (Or.inr rfl) h
    exact ⟨[], exponent, Or.inl rfl, isExponent, left⟩
  · cases h
    exact ⟨[], [], Or.inl rfl, Or.inl rfl, rfl⟩

theorem skipFraction_of_exponent {exponent : List Char} (h : ExponentText exponent)
    (stop : Delimited rest) : skipFraction (exponent ++ rest) = .ok rest := by
  rcases h with rfl | ⟨mark, sign, digits, isMark, isSign, isDigits, rfl⟩
  · cases rest with
    | nil => rfl
    | cons c rest =>
      obtain ⟨-, notDot, notSmall, notLarge⟩ := stop.marks
      unfold skipFraction
      split <;> simp_all
  · have passed := skipExponent_of_digits isSign isDigits stop
    rcases isMark with rfl | rfl
    · exact passed
    · exact passed

theorem skipFraction_of_fraction {fraction exponent : List Char} (h : FractionText fraction)
    (h' : ExponentText exponent) (stop : Delimited rest) :
    skipFraction (fraction ++ (exponent ++ rest)) = .ok rest := by
  rcases h with rfl | ⟨digits, isDigits, rfl⟩
  · exact skipFraction_of_exponent h' stop
  · have start := startsWithDigit_append isDigits (exponent ++ rest)
    have passed := dropWhile_digits isDigits (h'.noDigit stop)
    have behind := skipFraction_of_exponent h' stop
    rw [List.cons_append, skipFraction, if_pos start, passed]
    rcases h' with rfl | ⟨mark, sign, digits', rfl | rfl, -, -, rfl⟩
    · cases rest with
      | nil => rfl
      | cons c rest =>
        obtain ⟨-, notDot, notSmall, notLarge⟩ := stop.marks
        rw [List.nil_append]
        split <;> simp_all
    · exact behind
    · exact behind

theorem skipUnsigned_sound (h : skipUnsigned chars = .ok rest) :
    ∃ whole fraction exponent, IntegerText whole ∧ FractionText fraction ∧ ExponentText exponent ∧
      chars = whole ++ (fraction ++ (exponent ++ rest)) := by
  unfold skipUnsigned at h
  split at h
  · split at h
    · cases h
    · obtain ⟨fraction, exponent, isFraction, isExponent, left⟩ := fraction_of_skipFraction h
      exact ⟨['0'], fraction, exponent, Or.inl rfl, isFraction, isExponent, by rw [left]; rfl⟩
  · rename_i noZero
    split at h
    · rename_i start
      obtain ⟨digits, isDigits, first, whole⟩ := digits_of_startsWithDigit start
      obtain ⟨fraction, exponent, isFraction, isExponent, left⟩ := fraction_of_skipFraction h
      refine ⟨digits, fraction, exponent, Or.inr ⟨isDigits, ?_⟩, isFraction, isExponent, ?_⟩
      · rw [first]
        cases chars with
        | nil => simp
        | cons c rest =>
          rintro same
          cases same
          exact noZero rest rfl
      · rw [← left]
        exact whole
    · cases h

theorem skipUnsigned_complete {whole fraction exponent : List Char} (h : IntegerText whole)
    (h' : FractionText fraction) (h'' : ExponentText exponent) (stop : Delimited rest) :
    skipUnsigned (whole ++ (fraction ++ (exponent ++ rest))) = .ok rest := by
  have noDigit := h'.noDigit h'' stop
  have passed := skipFraction_of_fraction h' h'' stop
  rcases h with rfl | ⟨isDigits, noZero⟩
  · rw [List.singleton_append, skipUnsigned, noDigit]
    exact passed
  · have start := startsWithDigit_append isDigits (fraction ++ (exponent ++ rest))
    have behind := dropWhile_digits isDigits noDigit
    unfold skipUnsigned
    split
    · rename_i same
      cases whole with
      | nil => exact absurd rfl isDigits.1
      | cons c whole =>
        rw [List.cons_append] at same
        cases same
        exact absurd rfl noZero
    · rw [if_pos start, behind]
      exact passed

theorem IntegerText.head {whole : List Char} (h : IntegerText whole) :
    ∃ c digits, whole = c :: digits ∧ c.isDigit = true := by
  rcases h with rfl | ⟨⟨nonempty, isDigits⟩, -⟩
  · exact ⟨'0', [], rfl, rfl⟩
  · cases whole with
    | nil => exact absurd rfl nonempty
    | cons c digits => exact ⟨c, digits, rfl, isDigits c List.mem_cons_self⟩

theorem mark_ne_digit (digit : c.isDigit = true) :
    isSpace c = false ∧ c ≠ ',' ∧ c ≠ ']' ∧ c ≠ '}' := by
  obtain ⟨low, high⟩ := isDigit_iff.1 digit
  simp only [isSpace, Bool.or_eq_false_iff, decide_eq_false_iff_not]
  refine ⟨⟨⟨⟨?_, ?_⟩, ?_⟩, ?_⟩, ?_, ?_, ?_⟩ <;> (rintro rfl; revert low high; decide)

end LedgerWallet.Json
