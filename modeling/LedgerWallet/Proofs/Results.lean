import LedgerWallet.Bytes

namespace LedgerWallet

variable {α β ε δ : Type}

theorem bind_ok {first : Except ε α} {rest : α → Except ε β} {b : β}
    (h : (first >>= rest) = .ok b) : ∃ a, first = .ok a ∧ rest a = .ok b := by
  cases first with
  | error error => cases h
  | ok a => exact ⟨a, rfl, h⟩

theorem map_ok {result : Except ε α} {f : α → β} {b : β} (h : result.map f = .ok b) :
    ∃ a, result = .ok a ∧ f a = b := by
  cases result with
  | error error => cases h
  | ok a =>
    cases h
    exact ⟨a, rfl, rfl⟩

theorem mapError_ok {result : Except ε α} {f : ε → δ} {a : α} (h : result.mapError f = .ok a) :
    result = .ok a := by
  cases result with
  | error error => cases h
  | ok found =>
    cases h
    rfl

theorem mapError_eq_ok_iff {result : Except ε α} {f : ε → δ} {a : α} :
    result.mapError f = .ok a ↔ result = .ok a := by
  constructor
  · exact mapError_ok
  · rintro rfl
    rfl

theorem mapError_error {result : Except ε α} {f : ε → δ} {error : δ}
    (h : result.mapError f = .error error) : ∃ found, result = .error found ∧ f found = error := by
  cases result with
  | error found =>
    cases h
    exact ⟨found, rfl, rfl⟩
  | ok a => cases h

theorem ok_of_toOption {result : Except ε α} {a : α} (h : result.toOption = some a) :
    result = .ok a := by
  cases result with
  | error error => cases h
  | ok found =>
    cases h
    rfl

end LedgerWallet
