import LedgerWallet.Bytes

namespace LedgerWallet.Edwards

def prime : Nat := Nat.pow 2 255 - 19

instance : @NeZero Nat Zero.ofOfNat0 prime := ⟨Nat.succ_ne_zero (Nat.pow 2 255 - 20)⟩

abbrev Field := Fin prime

namespace Field

def ofNat (n : Nat) : Field := Fin.ofNat prime n

def bits : Nat → Nat → List Bool
  | 0, _ => []
  | width + 1, n => (n % 2 == 1) :: bits width (n / 2)

def power (base : Field) (exponent : Nat) : Field :=
  (bits 256 exponent).foldr (fun bit acc =>
    let square := acc * acc
    if bit then square * base else square) (ofNat 1)

def inverse (x : Field) : Field :=
  power x (prime - 2)

def sqrtMinusOne : Field :=
  ofNat 19681161376707505956807079304988542015446066515923890162744021073123829784752

/-- The even one of the two square roots of `u / v`, when there are any. -/
def sqrtRatio? (u v : Field) : Option Field :=
  let cube := v * v * v
  let root := u * cube * power (u * cube * cube * v) ((prime - 5) / 8)
  let check := v * root * root
  let root? :=
    if check = u then some root
    else if check = -u then some (root * sqrtMinusOne)
    else none
  root?.map fun r => if r.val % 2 = 0 then r else -r

end Field

def d : Field :=
  Field.ofNat 37095705934669439343138083508754565189542113879843219016388785533085940283555

/-- The point `(x / z, y / z)`, with `t = x y / z`. -/
structure Point where
  x : Field
  y : Field
  z : Field
  t : Field

namespace Point

def ofAffine (x y : Field) : Point :=
  ⟨x, y, Field.ofNat 1, x * y⟩

def identity : Point :=
  ofAffine (Field.ofNat 0) (Field.ofNat 1)

def base : Point :=
  ofAffine
    (Field.ofNat 15112221349535400772501151409588531511454012693041857206046113283949847762202)
    (Field.ofNat 46316835694926478169428394003475163141307993866256225615783033603165251855960)

/-- The addition law, which holds for every pair of points, equal ones included. -/
def add (p q : Point) : Point :=
  let a := (p.y - p.x) * (q.y - q.x)
  let b := (p.y + p.x) * (q.y + q.x)
  let c := (d + d) * p.t * q.t
  let e := (p.z + p.z) * q.z
  ⟨(b - a) * (e - c), (e + c) * (b + a), (e - c) * (e + c), (b - a) * (b + a)⟩

def neg (p : Point) : Point :=
  ⟨-p.x, p.y, p.z, -p.t⟩

def scale (factor : Nat) (p : Point) : Point :=
  (Field.bits 256 factor).foldr (fun bit acc =>
    let twice := acc.add acc
    if bit then twice.add p else twice) identity

/-- The value of `y`, with the parity of `x` in the highest bit. -/
def encode (p : Point) : FixedBytes 32 :=
  let unit := Field.inverse p.z
  let x := p.x * unit
  let y := p.y * unit
  FixedBytes.littleEndian 32 (y.val + Nat.pow 2 255 * (x.val % 2))

/-- The value of `y` need not be below the prime, and a zero `x` may carry either parity. -/
def decode? (bytes : FixedBytes 32) : Option Point :=
  let number := ByteString.ofLittleEndian bytes.toList
  let y := Field.ofNat (number % Nat.pow 2 255)
  let square := y * y
  (Field.sqrtRatio? (square - Field.ofNat 1) (d * square + Field.ofNat 1)).map fun x =>
    ofAffine (if number / Nat.pow 2 255 = 1 then -x else x) y

end Point

def order : Nat := Nat.pow 2 252 + 27742317777372353535851937790883648493

end LedgerWallet.Edwards
