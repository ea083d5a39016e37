import LedgerWallet.Amount
import LedgerWallet.Proofs.Text.Numerals

namespace LedgerWallet.Amount

open Numeral

variable {text : String} {n : Nat}

/-- How amounts are written: below a hundredth of a coin as a number of smallest units, and from
there on in coins, with twelve decimals. -/
inductive Shows : String → Nat → Prop where
  | units {digits : List Char} {n : Nat} (few : n < 10 ^ 10) (numeral : IsNumeral digits n) :
      Shows (String.ofList digits ++ " Smidge") n
  | coins {whole decimals : List Char} {w f : Nat} (many : 10 ^ 10 ≤ w * 10 ^ 12 + f)
      (numeral : IsNumeral whole w) (isDigits : IsDigits decimals) (length : decimals.length = 12)
      (value : valueOf decimals = f) :
      Shows (String.ofList whole ++ "." ++ String.ofList decimals ++ " SMH") (w * 10 ^ 12 + f)

theorem display_of_few {amount : Amount} (few : amount.toNat < 10 ^ 10) :
    amount.display = write amount.toNat ++ " Smidge" := by
  have below : ¬ perCoin / 100 ≤ amount.toNat := Nat.not_le.2 few
  rw [display, if_neg below]
  exact String.append_assoc

theorem display_of_many {amount : Amount} (many : 10 ^ 10 ≤ amount.toNat) :
    amount.display = write (amount.toNat / 10 ^ 12) ++ "." ++
      writePadded 12 (amount.toNat % 10 ^ 12) ++ " SMH" := by
  have reached : perCoin / 100 ≤ amount.toNat := many
  rw [display, if_pos reached]
  exact String.append_assoc

theorem writePadded_decimals {f : Nat} (fits : f < 10 ^ 12) {decimals : List Char} :
    writePadded 12 f = String.ofList decimals ↔
      IsDigits decimals ∧ decimals.length = 12 ∧ valueOf decimals = f :=
  writePadded_eq_iff (by decide) fits

theorem shows_display (amount : Amount) : Shows amount.display amount.toNat := by
  rcases Nat.lt_or_ge amount.toNat (10 ^ 10) with few | many
  · rw [display_of_few few]
    exact .units few (isNumeral_chars _)
  · have below : amount.toNat % 10 ^ 12 < 10 ^ 12 := Nat.mod_lt _ (by decide)
    have whole : amount.toNat / 10 ^ 12 * 10 ^ 12 + amount.toNat % 10 ^ 12 = amount.toNat :=
      Nat.div_add_mod' _ _
    obtain ⟨isDigits, length, value⟩ :=
      (writePadded_decimals below).1 String.ofList_toList.symm
    have shown := Shows.coins (whole.symm ▸ many) (isNumeral_chars _) isDigits length value
    rwa [whole, String.ofList_toList, ← write, ← display_of_many many] at shown

theorem Shows.eq_display (shown : Shows text n) {amount : Amount} (same : amount.toNat = n) :
    amount.display = text := by
  cases shown with
  | units few numeral =>
    rw [display_of_few (same ▸ few), same, isNumeral_iff.1 numeral]
    rfl
  | @coins whole decimals w f many numeral isDigits length value =>
    have below : f < 10 ^ 12 := by
      rw [← value, ← length]
      exact valueOf_lt isDigits.2
    have coins : (w * 10 ^ 12 + f) / 10 ^ 12 = w := by omega
    have rest : (w * 10 ^ 12 + f) % 10 ^ 12 = f := by omega
    rw [display_of_many (same ▸ many), same, coins, rest, isNumeral_iff.1 numeral,
      (writePadded_decimals below).2 ⟨isDigits, length, value⟩]
    rfl

def readChars? (chars : List Char) : Option Nat :=
  let whole := valueOf (chars.takeWhile Char.isDigit)
  match chars.dropWhile Char.isDigit with
  | '.' :: rest =>
    if rest.dropWhile Char.isDigit = " SMH".toList then
      some (whole * 10 ^ 12 + valueOf (rest.takeWhile Char.isDigit))
    else none
  | rest => if rest = " Smidge".toList then some whole else none

def read? (text : String) : Option Nat := readChars? text.toList

theorem split_digits {digits : List Char} (isDigits : IsDigits digits) {c : Char}
    (other : c.isDigit = false) (rest : List Char) :
    (digits ++ c :: rest).takeWhile Char.isDigit = digits ∧
      (digits ++ c :: rest).dropWhile Char.isDigit = c :: rest := by
  constructor
  · rw [List.takeWhile_append_of_pos isDigits.2, List.takeWhile_cons_of_neg (by simp [other]),
      List.append_nil]
  · rw [List.dropWhile_append_of_pos isDigits.2, List.dropWhile_cons_of_neg (by simp [other])]

theorem read?_of_shows (shown : Shows text n) : read? text = some n := by
  cases shown with
  | @units digits n few numeral =>
    obtain ⟨front, behind⟩ := split_digits numeral.isDigits
      (show ' '.isDigit = false by decide) "Smidge".toList
    have chars : (String.ofList digits ++ " Smidge").toList =
        digits ++ ' ' :: "Smidge".toList := by simp
    rw [read?, chars, readChars?]
    simp only [front, behind, numeral.value]
    exact if_pos (by simp)
  | @coins whole decimals w f many numeral isDigits length value =>
    obtain ⟨front, behind⟩ := split_digits numeral.isDigits
      (show '.'.isDigit = false by decide) (decimals ++ ' ' :: "SMH".toList)
    obtain ⟨front', behind'⟩ := split_digits isDigits
      (show ' '.isDigit = false by decide) "SMH".toList
    have chars : (String.ofList whole ++ "." ++ String.ofList decimals ++ " SMH").toList =
        whole ++ '.' :: (decimals ++ ' ' :: "SMH".toList) := by simp
    rw [read?, chars, readChars?]
    simp only [front, behind, front', behind', numeral.value, value]
    exact if_pos (by simp)

/-- Each amount is displayed in the one form that its size asks for, from which it can be read
again, and no two amounts are displayed alike. -/
theorem display_exact :
    (∀ (amount : Amount) text, amount.display = text ↔ Shows text amount.toNat) ∧
    (∀ amount : Amount, read? amount.display = some amount.toNat) ∧
    ∀ a b : Amount, a.display = b.display → a = b := by
  have reads : ∀ amount : Amount, read? amount.display = some amount.toNat :=
    fun amount => read?_of_shows (shows_display amount)
  refine ⟨fun amount text => ⟨?_, fun shown => shown.eq_display rfl⟩, reads, fun a b same => ?_⟩
  · rintro rfl
    exact shows_display amount
  · have value : some a.toNat = some b.toNat := by rw [← reads, ← reads, same]
    exact UInt64.toNat_inj.1 (Option.some.inj value)

end LedgerWallet.Amount
