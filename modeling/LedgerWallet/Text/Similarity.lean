namespace LedgerWallet.Text

def freePlace? (c : Char) (word : List Char) (taken : List Nat) (low high : Nat) : Option Nat :=
  (word.zipIdx.find? fun entry =>
    entry.1 = c && low ≤ entry.2 && entry.2 ≤ high && !taken.contains entry.2).map Prod.snd

/-- What is known after some letters of the first word: the places taken in the second word, the
last of them first, and how often a place lies in front of the one taken before it. -/
structure Matching where
  taken : List Nat
  crossings : Nat

def Matching.extend (second : List Char) (reach : Nat) (m : Matching) (entry : Char × Nat) :
    Matching :=
  let low := entry.2 - reach
  let high := min (second.length - 1) (entry.2 + reach)
  match freePlace? entry.1 second m.taken low high with
  | none => m
  | some place =>
    ⟨place :: m.taken, m.crossings + if place < m.taken.headD 0 then 1 else 0⟩

def jaro (first second : List Char) : Float :=
  if first.isEmpty && second.isEmpty then 1
  else if first.isEmpty || second.isEmpty then 0
  else if first.length = 1 ∧ second.length = 1 then if first = second then 1 else 0
  else
    let reach := max first.length second.length / 2 - 1
    let m := first.zipIdx.foldl (Matching.extend second reach) ⟨[], 0⟩
    let matched := Float.ofNat m.taken.length
    if m.taken.isEmpty then 0
    else
      (1.0 / 3.0) * (matched / Float.ofNat first.length + matched / Float.ofNat second.length +
        (matched - Float.ofNat m.crossings) / matched)

def commonStart : List Char → List Char → Nat
  | c :: first, d :: second => if c = d then commonStart first second + 1 else 0
  | _, _ => 0

def similarity (first second : String) : Float :=
  let base := jaro first.toList second.toList
  let raised := base + 0.1 * Float.ofNat (commonStart first.toList second.toList) * (1.0 - base)
  if raised ≤ 1.0 then raised else 1.0

def mostSimilar? (word : String) (candidates : List String) : Option String :=
  let best := candidates.foldl (fun (best : Option (Float × String)) candidate =>
    let value := similarity word candidate
    if value > 0.8 && best.all (fun b => b.1 < value) then some (value, candidate) else best) none
  best.map Prod.snd

end LedgerWallet.Text
