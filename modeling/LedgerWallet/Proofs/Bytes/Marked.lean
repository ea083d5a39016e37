import LedgerWallet.Proofs.Text.Words

namespace LedgerWallet.Hex

open Text

variable {text : String} {digits : List Char} {bytes : ByteString}

def Denotes (text : String) (bytes : ByteString) : Prop :=
  ∃ mark digits, (mark = [] ∨ mark = ['0', 'x']) ∧ Spells digits bytes ∧
    text.toList = mark ++ digits

/-- The text consists of so many digits and at most one mark in front of them. -/
def HasDigits (text : String) (count : Nat) : Prop :=
  ∃ mark digits, (mark = [] ∨ mark = ['0', 'x']) ∧ digits.length = count ∧
    (∀ c ∈ digits, IsDigit c) ∧ text.toList = mark ++ digits

theorem dropStart?_of_spells (h : Spells digits bytes) : dropStart? ['0', 'x'] digits = none := by
  cases dropped : dropStart? ['0', 'x'] digits with
  | none => rfl
  | some rest =>
    rw [dropStart?_eq_some dropped] at h
    exact absurd h not_spells_mark

theorem spells_dropHexMark_iff : Spells (dropHexMark text).toList bytes ↔ Denotes text bytes := by
  rw [dropHexMark]
  constructor
  · intro h
    split at h
    · rename_i rest dropped
      rw [String.toList_ofList] at h
      exact ⟨['0', 'x'], rest, Or.inr rfl, h, dropStart?_eq_some dropped⟩
    · exact ⟨[], text.toList, Or.inl rfl, h, rfl⟩
  · rintro ⟨mark, digits, rfl | rfl, spells, shape⟩
    · rw [shape, List.nil_append, dropStart?_of_spells spells]
      dsimp only
      rwa [shape]
    · rw [shape, dropStart?_append]
      dsimp only
      rwa [String.toList_ofList]

theorem decode_dropHexMark_eq_ok_iff :
    decode (dropHexMark text) = .ok bytes ↔ Denotes text bytes := by
  rw [decode_eq_ok_iff, spells_dropHexMark_iff]

theorem decodeFixed?_dropHexMark_eq_some_iff {n : Nat} {bytes : FixedBytes n} :
    decodeFixed? n (dropHexMark text) = some bytes ↔ Denotes text bytes.toList := by
  rw [decodeFixed?_eq_some_iff, spells_dropHexMark_iff]

theorem exists_denotes_iff {n : Nat} :
    (∃ bytes : FixedBytes n, Denotes text bytes.toList) ↔ HasDigits text (2 * n) := by
  constructor
  · rintro ⟨bytes, mark, digits, known, spelled, whole⟩
    have length := length_of_spells spelled
    rw [bytes.length_toList] at length
    exact ⟨mark, digits, known, length, isDigit_of_spells spelled, whole⟩
  · rintro ⟨mark, digits, known, length, isDigit, whole⟩
    obtain ⟨bytes, spelled⟩ := exists_spells (by omega) isDigit
    have twice := length_of_spells spelled
    exact ⟨⟨bytes, by omega⟩, mark, digits, known, spelled, whole⟩

theorem Denotes.unbroken (h : Denotes text bytes) : IsUnbroken text := by
  obtain ⟨mark, digits, known, spelled, whole⟩ := h
  have visible : ∀ c ∈ mark, isBlank c = false := by
    rcases known with rfl | rfl
    all_goals simp [isBlank]
  rw [IsUnbroken, whole]
  exact List.forall_mem_append.2
    ⟨visible, fun c member => isBlank_of_isDigit (isDigit_of_spells spelled c member)⟩

theorem Denotes.ne_empty (h : Denotes text bytes) (some : bytes ≠ []) : text ≠ "" := by
  obtain ⟨mark, digits, -, spelled, whole⟩ := h
  rintro rfl
  obtain ⟨-, rfl⟩ := List.append_eq_nil_iff.1 whole.symm
  cases bytes with
  | nil => exact some rfl
  | cons byte bytes => exact spelled

theorem denotes_encode (bytes : ByteString) : Denotes (encode bytes) bytes :=
  ⟨[], encodeChars bytes, Or.inl rfl, spells_encodeChars bytes, String.toList_ofList⟩

theorem denotes_mark_encode (bytes : ByteString) : Denotes ("0x" ++ encode bytes) bytes :=
  ⟨['0', 'x'], encodeChars bytes, Or.inr rfl, spells_encodeChars bytes, by simp [encode]⟩

end LedgerWallet.Hex
