import LedgerWallet.Proofs.Bytes.Numbers
import LedgerWallet.Proofs.Wallet.Signing

namespace LedgerWallet

open ByteString

theorem ofBigEndian_wordBytes (word : UInt64) :
    ofBigEndian (Transfer.wordBytes word) = word.toNat := by
  rw [Transfer.wordBytes, ofBigEndian_bigEndian]
  exact Nat.mod_eq_of_lt word.toNat_lt

theorem eq_wordBytes {bytes : ByteString} {word : UInt64} (length : bytes.length = 8)
    (value : ofBigEndian bytes = word.toNat) : bytes = Transfer.wordBytes word := by
  have spelled := bigEndian_ofBigEndian bytes
  rw [length, value] at spelled
  exact spelled.symm

theorem wordOfBytes_of_value {bytes : ByteString} {word : UInt64}
    (value : ofBigEndian bytes = word.toNat) : wordOfBytes bytes = word := by
  rw [wordOfBytes, value, UInt64.ofNat_toNat]

theorem toNat_wordOfBytes {bytes : ByteString} (length : bytes.length = 8) :
    (wordOfBytes bytes).toNat = ofBigEndian bytes := by
  have bound := ofBigEndian_lt bytes
  rw [length] at bound
  exact UInt64.toNat_ofNat_of_lt' bound

namespace Transfer

variable {t : Transfer} {bytes : ByteString}

/-- The bytes hold the fields of a transfer, each at its place and numbers in big-endian order. -/
structure LaidOut (t : Transfer) (bytes : ByteString) : Prop where
  length : bytes.length = 52
  nonce : ofBigEndian (bytes.take 8) = t.nonce.toNat
  amount : ofBigEndian ((bytes.drop 8).take 8) = t.amount.toNat
  recipient : (bytes.drop 16).take 20 = t.recipient.bytes.toList
  gasLimit : ofBigEndian ((bytes.drop 36).take 8) = t.gasLimit.toNat
  gasPrice : ofBigEndian (bytes.drop 44) = t.gasPrice.toNat

theorem laidOut_encode (t : Transfer) : t.LaidOut t.encode := by
  have word : ∀ w, (wordBytes w).length = 8 := fun w => length_bigEndian 8 w.toNat
  have address := t.recipient.bytes.length_toList
  constructor
  · exact t.length_encode
  -- What stands in front of a field is shorter than the bytes dropped, so nothing of it is left.
  all_goals
    simp [encode, List.drop_append, List.drop_of_length_le, word, address, ofBigEndian_wordBytes]

theorem fields_append (bytes : ByteString) :
    bytes.take 8 ++ (bytes.drop 8).take 8 ++ (bytes.drop 16).take 20 ++ (bytes.drop 36).take 8 ++
      bytes.drop 44 = bytes := by
  have cut (n m : Nat) : (bytes.drop n).take m ++ bytes.drop (n + m) = bytes.drop n := by
    rw [← List.drop_drop, List.take_append_drop]
  rw [List.append_assoc, cut 36 8, List.append_assoc, cut 16 20, List.append_assoc, cut 8 8,
    List.take_append_drop]

theorem LaidOut.eq_encode (h : t.LaidOut bytes) : bytes = t.encode := by
  have length := h.length
  have nonce := eq_wordBytes (by simp [length]) h.nonce
  have amount := eq_wordBytes (by simp [length]) h.amount
  have gasLimit := eq_wordBytes (by simp [length]) h.gasLimit
  have gasPrice := eq_wordBytes (by simp [length]) h.gasPrice
  rw [encode, ← nonce, ← amount, ← h.recipient, ← gasLimit, ← gasPrice, fields_append]

theorem LaidOut.decode? (h : t.LaidOut bytes) : decode? bytes = some t := by
  have recipient : FixedBytes.ofList? ((bytes.drop 16).take 20) = some t.recipient.bytes := by
    rw [h.recipient, FixedBytes.ofList?_toList]
  have length : bytes.length = encodedLength := h.length
  unfold Transfer.decode?
  rw [recipient]
  dsimp only
  rw [if_pos length, wordOfBytes_of_value h.nonce, wordOfBytes_of_value h.amount,
    wordOfBytes_of_value h.gasLimit, wordOfBytes_of_value h.gasPrice]

theorem exists_laidOut (length : bytes.length = 52) : ∃ t : Transfer, t.LaidOut bytes := by
  have recipient : ((bytes.drop 16).take 20).length = 20 := by simp [length]
  have nonce : (bytes.take 8).length = 8 := by simp [length]
  have amount : ((bytes.drop 8).take 8).length = 8 := by simp [length]
  have gasLimit : ((bytes.drop 36).take 8).length = 8 := by simp [length]
  have gasPrice : (bytes.drop 44).length = 8 := by simp [length]
  exact ⟨⟨_, _, ⟨⟨_, recipient⟩⟩, _, _⟩, length, (toNat_wordOfBytes nonce).symm,
    (toNat_wordOfBytes amount).symm, rfl, (toNat_wordOfBytes gasLimit).symm,
    (toNat_wordOfBytes gasPrice).symm⟩

theorem decode?_eq_some_iff : decode? bytes = some t ↔ bytes = t.encode := by
  constructor
  · intro h
    have length : bytes.length = 52 := by
      unfold decode? at h
      split at h
      · cases h
      · split at h
        · assumption
        · cases h
    obtain ⟨found, laidOut⟩ := exists_laidOut length
    rw [laidOut.decode?] at h
    cases h
    exact laidOut.eq_encode
  · rintro rfl
    exact t.laidOut_encode.decode?

end Transfer

namespace SignedTransfer

theorem decode?_eq_some_iff {bytes : ByteString} {s : SignedTransfer} :
    decode? bytes = some s ↔ bytes = s.encode := by
  unfold decode?
  constructor
  · intro h
    split at h
    · rename_i transfer signature found rest
      cases h
      have front : bytes.take Transfer.encodedLength = transfer.encode :=
        Transfer.decode?_eq_some_iff.1 found
      have back := FixedBytes.toList_of_ofList? rest
      rw [encode, ← front, back, List.take_append_drop]
    · cases h
  · rintro rfl
    obtain ⟨-, front, back⟩ := s.encode_parts
    rw [Transfer.encodedLength, front, back, Transfer.decode?_eq_some_iff.2 rfl,
      FixedBytes.ofList?_toList]

theorem exists_encode {bytes : ByteString} (length : bytes.length = 116) :
    ∃ s : SignedTransfer, bytes = s.encode := by
  have front : (bytes.take 52).length = 52 := by simp [length]
  have back : (bytes.drop 52).length = 64 := by simp [length]
  obtain ⟨transfer, laidOut⟩ := Transfer.exists_laidOut front
  refine ⟨⟨transfer, ⟨⟨_, back⟩⟩⟩, ?_⟩
  rw [encode, ← laidOut.eq_encode, List.take_append_drop]

end SignedTransfer

/-- The canonical bytes of a transfer hold its fields at their places, every string of 52 bytes is
the encoding of exactly one transfer and every string of 116 bytes of exactly one signed transfer,
and what an account with paired keys signs are all the bytes in front of its signature. -/
theorem canonical_bytes_exact :
    (∀ t : Transfer, t.LaidOut t.encode) ∧
    (∀ t bytes, Transfer.decode? bytes = some t ↔ bytes = t.encode) ∧
    (∀ bytes : ByteString, bytes.length = 52 → (Transfer.decode? bytes).isSome) ∧
    (∀ s : SignedTransfer, s.encode.length = 116 ∧
      s.encode = s.transfer.encode ++ s.signature.bytes.toList) ∧
    (∀ s bytes, SignedTransfer.decode? bytes = some s ↔ bytes = s.encode) ∧
    (∀ bytes : ByteString, bytes.length = 116 → (SignedTransfer.decode? bytes).isSome) ∧
    ∀ (account : Account) (t : Transfer), account.Paired →
      ∃ signed, account.signTransfer t = .ok signed ∧
        signed.encode.take 52 = t.encode ∧
        signed.encode.drop 52 = signed.signature.bytes.toList ∧
        account.sign (signed.encode.take 52) = .ok signed.signature ∧
        Ed25519.verify account.publicKey (signed.encode.take 52) signed.signature = true ∧
        signed.id = sha256 signed.encode := by
  refine ⟨Transfer.laidOut_encode, fun _ _ => Transfer.decode?_eq_some_iff, ?_, ?_,
    fun _ _ => SignedTransfer.decode?_eq_some_iff, ?_, ?_⟩
  · intro bytes length
    obtain ⟨t, laidOut⟩ := Transfer.exists_laidOut length
    rw [laidOut.decode?]
    rfl
  · exact fun s => ⟨s.encode_parts.1, rfl⟩
  · intro bytes length
    obtain ⟨s, same⟩ := SignedTransfer.exists_encode length
    rw [SignedTransfer.decode?_eq_some_iff.2 same]
    rfl
  · intro account t paired
    obtain ⟨signature, signs⟩ := Account.sign_of_paired paired t.encode
    obtain ⟨-, front, back⟩ := SignedTransfer.encode_parts ⟨t, signature⟩
    refine ⟨⟨t, signature⟩, Account.signTransfer_of_sign signs, front, back, ?_, ?_, rfl⟩ <;>
      rw [front]
    · exact signs
    · exact Account.verify_of_sign signs

/-- Fields of every size go into the bytes and come back, and the bytes are signed. -/
theorem canonical_bytes_of_first_account :
    let account := Account.generate (.replicate 32 1) "first"
    let t : Transfer := ⟨7, 18446744073709551615, ⟨.replicate 20 0x42⟩, 100, 256⟩
    account.Paired ∧ Transfer.decode? t.encode = some t ∧
      t.encode.take 16 = [0, 0, 0, 0, 0, 0, 0, 7, 255, 255, 255, 255, 255, 255, 255, 255] ∧
      t.encode.drop 36 = [0, 0, 0, 0, 0, 0, 0, 100, 0, 0, 0, 0, 0, 0, 1, 0] ∧
      ∃ signed, account.signTransfer t = .ok signed ∧
        Ed25519.verify account.publicKey (signed.encode.take 52) signed.signature = true := by
  intro account t
  have paired : account.Paired := Account.generate_paired _ _
  obtain ⟨-, decodes, -, -, -, -, signing⟩ := canonical_bytes_exact
  obtain ⟨signed, made, -, -, -, verifies, -⟩ := signing account t paired
  exact ⟨paired, (decodes t _).2 rfl, by decide, by decide, signed, made, verifies⟩

end LedgerWallet
