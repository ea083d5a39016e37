namespace LedgerWallet.Decimal

/-- The number `significand · 2 ^ exponent`. -/
structure Binary where
  significand : Nat
  exponent : Int

structure Scientific where
  digits : Nat
  exponent : Int

def Binary.ofBits (bits : UInt64) : Binary :=
  let fraction : Nat := bits.toNat % Nat.pow 2 52
  let biased : Nat := bits.toNat / Nat.pow 2 52 % Nat.pow 2 11
  if biased = 0 then ⟨fraction, -1074⟩ else ⟨Nat.pow 2 52 + fraction, (biased : Int) - 1075⟩

structure Ratio where
  numerator : Nat
  denominator : Nat

def Ratio.ofScaled (n base : Nat) (exponent : Int) : Ratio :=
  if 0 ≤ exponent then ⟨n * base.pow exponent.toNat, 1⟩ else ⟨n, base.pow (-exponent).toNat⟩

def Ratio.le (a b : Ratio) : Bool :=
  a.numerator * b.denominator ≤ b.numerator * a.denominator

def Ratio.distance (a b : Ratio) : Ratio :=
  let x := a.numerator * b.denominator
  let y := b.numerator * a.denominator
  ⟨(x - y) + (y - x), a.denominator * b.denominator⟩

structure Interval where
  low : Ratio
  high : Ratio
  closed : Bool

def Interval.contains (i : Interval) (r : Ratio) : Bool :=
  if i.closed then i.low.le r && r.le i.high else !r.le i.low && !i.high.le r

/-- Half a unit to both sides, and a quarter below a power of two. -/
def Binary.interval (b : Binary) : Interval :=
  let below := if b.significand = Nat.pow 2 52 ∧ -1074 < b.exponent then 1 else 2
  ⟨Ratio.ofScaled (4 * b.significand - below) 2 (b.exponent - 2),
    Ratio.ofScaled (4 * b.significand + 2) 2 (b.exponent - 2),
    b.significand % 2 = 0⟩

def Ratio.leadExponent (r : Ratio) : Int :=
  ((Nat.toDigits 10 (r.numerator * Nat.pow 10 400 / r.denominator)).length : Int) - 401

/-- The better one of the two neighbours of `r` on the grid of multiples of `10 ^ exponent`, if
one of them is in the interval; of two equally near ones, the even one. -/
def onGrid? (i : Interval) (r : Ratio) (exponent : Int) : Option Scientific :=
  let unit := Ratio.ofScaled 1 10 exponent
  let lower := r.numerator * unit.denominator / (r.denominator * unit.numerator)
  let point (n : Nat) : Ratio := ⟨n * unit.numerator, unit.denominator⟩
  let below := i.contains (point lower)
  let above := i.contains (point (lower + 1))
  let toLower := r.distance (point lower)
  let toUpper := r.distance (point (lower + 1))
  let prefersUpper := !toLower.le toUpper || (toUpper.le toLower && lower % 2 = 1)
  if above && (prefersUpper || !below) then some ⟨lower + 1, exponent⟩
  else if below then some ⟨lower, exponent⟩
  else none

def firstOnGrid (i : Interval) (r : Ratio) (lead : Int) : Nat → Nat → Scientific
  | 0, _ => ⟨r.numerator / r.denominator, 0⟩
  | fuel + 1, used =>
    match onGrid? i r (lead - used) with
    | some s => s
    | none => firstOnGrid i r lead fuel (used + 1)

def Scientific.dropZeros : Nat → Scientific → Scientific
  | 0, s => s
  | fuel + 1, s =>
    if s.digits % 10 = 0 ∧ s.digits ≠ 0 then dropZeros fuel ⟨s.digits / 10, s.exponent + 1⟩ else s

/-- Seventeen digits always suffice. -/
def shortest (b : Binary) : Scientific :=
  if b.significand = 0 then ⟨0, 0⟩
  else
    let value := Ratio.ofScaled b.significand 2 b.exponent
    (firstOnGrid b.interval value value.leadExponent 17 0).dropZeros 17

end LedgerWallet.Decimal
