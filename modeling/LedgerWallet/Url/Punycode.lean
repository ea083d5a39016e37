namespace LedgerWallet.Punycode

def digit (value : Nat) : Char :=
  if value < 26 then Char.ofNat (0x61 + value) else Char.ofNat (0x30 + value - 26)

def threshold (place bias : Nat) : Nat :=
  min 26 (max 1 (place - bias))

def digits (bias : Nat) : Nat → Nat → Nat → List Char
  | 0, _, _ => []
  | fuel + 1, place, value =>
    let t := threshold place bias
    if value < t then [digit value]
    else digit (t + (value - t) % (36 - t)) :: digits bias fuel (place + 36) ((value - t) / (36 - t))

def settle : Nat → Nat → Nat → Nat
  | 0, _, bias => bias
  | fuel + 1, delta, bias =>
    if 455 < delta then settle fuel (delta / 35) (bias + 36) else bias + 36 * delta / (delta + 38)

def adapt (delta count : Nat) (isFirst : Bool) : Nat :=
  let scaled := if isFirst then delta / 700 else delta / 2
  settle scaled (scaled + scaled / count) 0

structure Progress where
  placed : Nat
  delta : Nat
  bias : Nat
  written : List Char

def pass (number basic : Nat) (p : Progress) (c : Char) : Progress :=
  if c.toNat < number then { p with delta := p.delta + 1 }
  else if c.toNat = number then
    { placed := p.placed + 1
      delta := 0
      bias := adapt p.delta (p.placed + 1) (p.placed = basic)
      written := p.written ++ digits p.bias (p.delta + 1) 36 p.delta }
  else p

def placeFrom (label : List Char) (basic : Nat) : Nat → Nat → Progress → Progress
  | 0, _, p => p
  | fuel + 1, number, p =>
    match ((label.map Char.toNat).filter (number ≤ ·)).min? with
    | none => p
    | some next =>
      let moved := { p with delta := p.delta + (next - number) * (p.placed + 1) }
      let after := label.foldl (pass next basic) moved
      placeFrom label basic fuel (next + 1) { after with delta := after.delta + 1 }

def encode (label : List Char) : List Char :=
  let basic := label.filter fun c => c.toNat < 0x80
  let start := if basic.isEmpty then [] else basic ++ ['-']
  (placeFrom label basic.length label.length 0x80 ⟨basic.length, 0, 72, start⟩).written

def digitValue? (c : Char) : Option Nat :=
  if 'a' ≤ c ∧ c ≤ 'z' then some (c.toNat - 0x61)
  else if '0' ≤ c ∧ c ≤ '9' then some (c.toNat - 0x30 + 26)
  else none

def readNumber? (bias : Nat) : Nat → Nat → Nat → List Char → Option (Nat × List Char)
  | _, _, _, [] => none
  | place, weight, value, c :: rest => do
    let d ← digitValue? c
    let t := threshold place bias
    if d < t then return (value + d * weight, rest)
    else readNumber? bias (place + 36) (weight * (36 - t)) (value + d * weight) rest

/-- Inserts a character for each number: `number` and `index` are those of the last one, and
`fuel` bounds the numbers. -/
def insertAll? : Nat → Nat → Nat → Nat → List Char → List Char → Option (List Char)
  | _, _, _, _, label, [] => some label
  | 0, _, _, _, _, _ => none
  | fuel + 1, number, index, bias, label, digits => do
    let (delta, rest) ← readNumber? bias 36 1 0 digits
    let count := label.length + 1
    let next := number + (index + delta) / count
    let place := (index + delta) % count
    guard (Nat.isValidChar next)
    insertAll? fuel next (place + 1) (adapt delta count (index = 0))
      (label.insertIdx place (Char.ofNat next)) rest

def decode? (code : List Char) : Option (List Char) :=
  let behind := (code.reverse.takeWhile (· ≠ '-')).reverse
  let basic := code.take (code.length - behind.length - 1)
  let digits := if basic.isEmpty then code else behind
  insertAll? digits.length 0x80 0 72 basic digits

end LedgerWallet.Punycode
