namespace LedgerWallet

abbrev ByteString := List UInt8

structure FixedBytes (n : Nat) where
  toList : ByteString
  length_toList : toList.length = n
  deriving DecidableEq

namespace FixedBytes

variable {n : Nat}

theorem ext_toList {a b : FixedBytes n} (h : a.toList = b.toList) : a = b := by
  cases a
  cases b
  cases h
  rfl

def ofList? (bytes : ByteString) : Option (FixedBytes n) :=
  if h : bytes.length = n then some ⟨bytes, h⟩ else none

theorem ofList?_toList (b : FixedBytes n) : ofList? b.toList = some b := by
  simp [ofList?, b.length_toList]

theorem toList_of_ofList? {bytes : ByteString} {b : FixedBytes n}
    (h : ofList? bytes = some b) : b.toList = bytes := by
  unfold ofList? at h
  split at h
  · cases h
    rfl
  · cases h

def replicate (n : Nat) (byte : UInt8) : FixedBytes n :=
  ⟨List.replicate n byte, List.length_replicate⟩

def append {m : Nat} (a : FixedBytes n) (b : FixedBytes m) : FixedBytes (n + m) :=
  ⟨a.toList ++ b.toList, by rw [List.length_append, a.length_toList, b.length_toList]⟩

def suffix (n : Nat) (bytes : ByteString) : FixedBytes n :=
  ⟨List.replicate (n - bytes.length) 0 ++ bytes.drop (bytes.length - n), by
    rw [List.length_append, List.length_replicate, List.length_drop]
    omega⟩

end FixedBytes

namespace ByteString

def littleEndian : Nat → Nat → ByteString
  | 0, _ => []
  | width + 1, number => UInt8.ofNat number :: littleEndian width (number / 256)

def bigEndian (width number : Nat) : ByteString :=
  (littleEndian width number).reverse

def ofLittleEndian : ByteString → Nat
  | [] => 0
  | byte :: rest => byte.toNat + 256 * ofLittleEndian rest

def ofBigEndian (bytes : ByteString) : Nat :=
  ofLittleEndian bytes.reverse

@[simp] theorem length_littleEndian (width number : Nat) :
    (littleEndian width number).length = width := by
  induction width generalizing number with
  | zero => rfl
  | succ width ih => simp [littleEndian, ih]

@[simp] theorem length_bigEndian (width number : Nat) :
    (bigEndian width number).length = width := by
  simp [bigEndian]

def pieces (size : Nat) : Nat → ByteString → List ByteString
  | 0, _ => []
  | count + 1, bytes => bytes.take size :: pieces size count (bytes.drop size)

end ByteString

namespace FixedBytes

def littleEndian (n number : Nat) : FixedBytes n :=
  ⟨ByteString.littleEndian n number, ByteString.length_littleEndian n number⟩

def bigEndian (n number : Nat) : FixedBytes n :=
  ⟨ByteString.bigEndian n number, ByteString.length_bigEndian n number⟩

end FixedBytes

end LedgerWallet
