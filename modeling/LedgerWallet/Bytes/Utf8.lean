import LedgerWallet.Bytes

namespace LedgerWallet.Utf8

def encode (text : String) : ByteString :=
  text.toUTF8.data.toList

def decode? (bytes : ByteString) : Option String :=
  String.fromUTF8? ⟨bytes.toArray⟩

def size : List Char → Nat
  | [] => 0
  | c :: rest => c.utf8Size + size rest

def leadByte (c : Char) : UInt8 :=
  (encode c.toString).headD 0

theorem decode?_encode (text : String) : decode? (encode text) = some text := by
  have same : (⟨(encode text).toArray⟩ : ByteArray) = text.toByteArray := by
    simp [encode]
  unfold decode? String.fromUTF8?
  rw [same, dif_pos text.isValidUTF8]
  rfl

theorem encode_of_decode? {bytes : ByteString} {text : String}
    (h : decode? bytes = some text) : encode text = bytes := by
  unfold decode? String.fromUTF8? at h
  split at h
  · cases h
    simp [encode, String.fromUTF8]
  · cases h

end LedgerWallet.Utf8
