import LedgerWallet.Bytes

namespace LedgerWallet.Sha2

/-- Two rotations and one further amount, which is a rotation or a shift. -/
structure Amounts where
  first : Nat
  second : Nat
  third : Nat

structure Member (w : Nat) where
  initial : List (BitVec w)
  roundKeys : List (BitVec w)
  choiceMix : Amounts
  majorityMix : Amounts
  earlyMix : Amounts
  lateMix : Amounts

variable {w : Nat}

def rotations (a : Amounts) (x : BitVec w) : BitVec w :=
  x.rotateRight a.first ^^^ x.rotateRight a.second ^^^ x.rotateRight a.third

def rotationsAndShift (a : Amounts) (x : BitVec w) : BitVec w :=
  x.rotateRight a.first ^^^ x.rotateRight a.second ^^^ x >>> a.third

structure Working (w : Nat) where
  a : BitVec w
  b : BitVec w
  c : BitVec w
  d : BitVec w
  e : BitVec w
  f : BitVec w
  g : BitVec w
  h : BitVec w

namespace Working

def ofList (words : List (BitVec w)) : Working w :=
  ⟨words.getD 0 0, words.getD 1 0, words.getD 2 0, words.getD 3 0,
    words.getD 4 0, words.getD 5 0, words.getD 6 0, words.getD 7 0⟩

def toList (s : Working w) : List (BitVec w) :=
  [s.a, s.b, s.c, s.d, s.e, s.f, s.g, s.h]

def add (s t : Working w) : Working w :=
  ⟨s.a + t.a, s.b + t.b, s.c + t.c, s.d + t.d, s.e + t.e, s.f + t.f, s.g + t.g, s.h + t.h⟩

def round (m : Member w) (s : Working w) (input : BitVec w) : Working w :=
  let choice := (s.e &&& s.f) ^^^ (~~~s.e &&& s.g)
  let majority := (s.a &&& s.b) ^^^ (s.a &&& s.c) ^^^ (s.b &&& s.c)
  let t₁ := s.h + rotations m.choiceMix s.e + choice + input
  let t₂ := rotations m.majorityMix s.a + majority
  ⟨t₁ + t₂, s.a, s.b, s.c, s.d + t₁, s.e, s.f, s.g⟩

end Working

def schedule (m : Member w) : Nat → List (BitVec w) → List (BitVec w)
  | 0, _ => []
  | count + 1, window =>
    let next := window.getD 0 0 + rotationsAndShift m.earlyMix (window.getD 1 0) +
      window.getD 9 0 + rotationsAndShift m.lateMix (window.getD 14 0)
    window.headD 0 :: schedule m count (window.tail ++ [next])

def words (block : ByteString) : List (BitVec w) :=
  (ByteString.pieces (w / 8) 16 block).map fun piece =>
    BitVec.ofNat w (ByteString.ofBigEndian piece)

def compress (m : Member w) (state : Working w) (block : ByteString) : Working w :=
  let inputs := List.zipWith (· + ·) m.roundKeys (schedule m m.roundKeys.length (words block))
  state.add (inputs.foldl (Working.round m) state)

/-- The message, a one bit, the fewest zeros that fill a block, and the length in bits. -/
def pad (blockSize lengthSize : Nat) (message : ByteString) : ByteString :=
  let used := (message.length + 1 + lengthSize) % blockSize
  message ++ 0x80 :: List.replicate ((blockSize - used) % blockSize) 0 ++
    ByteString.bigEndian lengthSize (8 * message.length)

def hash (m : Member w) (message : ByteString) : ByteString :=
  let blockSize := 2 * w
  let padded := pad blockSize (w / 4) message
  let blocks := ByteString.pieces blockSize (padded.length / blockSize) padded
  let final := blocks.foldl (compress m) (Working.ofList m.initial)
  final.toList.flatMap fun word => ByteString.bigEndian (w / 8) word.toNat

/-- The first 64 bits after the point of the cube roots of the first eighty primes. -/
def longRoundKeys : List (BitVec 64) :=
  [0x428a2f98d728ae22, 0x7137449123ef65cd, 0xb5c0fbcfec4d3b2f, 0xe9b5dba58189dbbc,
    0x3956c25bf348b538, 0x59f111f1b605d019, 0x923f82a4af194f9b, 0xab1c5ed5da6d8118,
    0xd807aa98a3030242, 0x12835b0145706fbe, 0x243185be4ee4b28c, 0x550c7dc3d5ffb4e2,
    0x72be5d74f27b896f, 0x80deb1fe3b1696b1, 0x9bdc06a725c71235, 0xc19bf174cf692694,
    0xe49b69c19ef14ad2, 0xefbe4786384f25e3, 0x0fc19dc68b8cd5b5, 0x240ca1cc77ac9c65,
    0x2de92c6f592b0275, 0x4a7484aa6ea6e483, 0x5cb0a9dcbd41fbd4, 0x76f988da831153b5,
    0x983e5152ee66dfab, 0xa831c66d2db43210, 0xb00327c898fb213f, 0xbf597fc7beef0ee4,
    0xc6e00bf33da88fc2, 0xd5a79147930aa725, 0x06ca6351e003826f, 0x142929670a0e6e70,
    0x27b70a8546d22ffc, 0x2e1b21385c26c926, 0x4d2c6dfc5ac42aed, 0x53380d139d95b3df,
    0x650a73548baf63de, 0x766a0abb3c77b2a8, 0x81c2c92e47edaee6, 0x92722c851482353b,
    0xa2bfe8a14cf10364, 0xa81a664bbc423001, 0xc24b8b70d0f89791, 0xc76c51a30654be30,
    0xd192e819d6ef5218, 0xd69906245565a910, 0xf40e35855771202a, 0x106aa07032bbd1b8,
    0x19a4c116b8d2d0c8, 0x1e376c085141ab53, 0x2748774cdf8eeb99, 0x34b0bcb5e19b48a8,
    0x391c0cb3c5c95a63, 0x4ed8aa4ae3418acb, 0x5b9cca4f7763e373, 0x682e6ff3d6b2b8a3,
    0x748f82ee5defb2fc, 0x78a5636f43172f60, 0x84c87814a1f0ab72, 0x8cc702081a6439ec,
    0x90befffa23631e28, 0xa4506cebde82bde9, 0xbef9a3f7b2c67915, 0xc67178f2e372532b,
    0xca273eceea26619c, 0xd186b8c721c0c207, 0xeada7dd6cde0eb1e, 0xf57d4f7fee6ed178,
    0x06f067aa72176fba, 0x0a637dc5a2c898a6, 0x113f9804bef90dae, 0x1b710b35131c471b,
    0x28db77f523047d84, 0x32caab7b40c72493, 0x3c9ebe0a15c9bebc, 0x431d67c49c100d4c,
    0x4cc5d4becb3e42b6, 0x597f299cfc657e2a, 0x5fcb6fab3ad6faec, 0x6c44198c4a475817]

/-- The first 64 bits after the point of the square roots of the first eight primes. -/
def longInitial : List (BitVec 64) :=
  [0x6a09e667f3bcc908, 0xbb67ae8584caa73b, 0x3c6ef372fe94f82b, 0xa54ff53a5f1d36f1,
    0x510e527fade682d1, 0x9b05688c2b3e6c1f, 0x1f83d9abfb41bd6b, 0x5be0cd19137e2179]

def upperHalf (word : BitVec 64) : BitVec 32 :=
  BitVec.ofNat 32 (word.toNat / Nat.pow 2 32)

def long : Member 64 where
  initial := longInitial
  roundKeys := longRoundKeys
  choiceMix := ⟨14, 18, 41⟩
  majorityMix := ⟨28, 34, 39⟩
  earlyMix := ⟨1, 8, 7⟩
  lateMix := ⟨19, 61, 6⟩

def short : Member 32 where
  initial := longInitial.map upperHalf
  roundKeys := (longRoundKeys.take 64).map upperHalf
  choiceMix := ⟨6, 11, 25⟩
  majorityMix := ⟨2, 13, 22⟩
  earlyMix := ⟨7, 18, 3⟩
  lateMix := ⟨17, 19, 10⟩

theorem length_hash (m : Member w) (message : ByteString) :
    (hash m message).length = 8 * (w / 8) := by
  simp only [hash, Working.toList, List.flatMap_cons, List.flatMap_nil, List.length_append,
    ByteString.length_bigEndian, List.length_nil]
  omega

end LedgerWallet.Sha2

namespace LedgerWallet

def sha256 (message : ByteString) : FixedBytes 32 :=
  ⟨Sha2.hash Sha2.short message, Sha2.length_hash Sha2.short message⟩

def sha512 (message : ByteString) : FixedBytes 64 :=
  ⟨Sha2.hash Sha2.long message, Sha2.length_hash Sha2.long message⟩

end LedgerWallet
