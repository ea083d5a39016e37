import LedgerWallet.Bytes

namespace LedgerWallet.Utf8

/-- A character whose first bytes are read: its number so far, how many bytes are still to come,
and the bounds of the next one. -/
structure Unfinished where
  number : Nat
  missing : Nat
  low : UInt8
  high : UInt8

def replacement : Char := '\uFFFD'

/-- Starts a character. What may follow its first byte excludes long forms, surrogates and numbers
beyond the last character. -/
def startChar (byte : UInt8) : List Char × Option Unfinished :=
  let lead := byte.toNat
  if lead < 0x80 then ([Char.ofNat lead], none)
  else if lead < 0xC2 then ([replacement], none)
  else if lead < 0xE0 then ([], some ⟨lead - 0xC0, 1, 0x80, 0xBF⟩)
  else if lead < 0xF0 then
    ([], some ⟨lead - 0xE0, 2, if lead = 0xE0 then 0xA0 else 0x80,
      if lead = 0xED then 0x9F else 0xBF⟩)
  else if lead < 0xF5 then
    ([], some ⟨lead - 0xF0, 3, if lead = 0xF0 then 0x90 else 0x80,
      if lead = 0xF4 then 0x8F else 0xBF⟩)
  else ([replacement], none)

def feed : Option Unfinished → UInt8 → List Char × Option Unfinished
  | none, byte => startChar byte
  | some p, byte =>
    if p.low ≤ byte ∧ byte ≤ p.high then
      let number := p.number * 64 + byte.toNat % 64
      if p.missing = 1 then ([Char.ofNat number], none)
      else ([], some ⟨number, p.missing - 1, 0x80, 0xBF⟩)
    else
      let (chars, next) := startChar byte
      (replacement :: chars, next)

def readLeniently : Option Unfinished → ByteString → List Char
  | none, [] => []
  | some _, [] => [replacement]
  | state, byte :: bytes =>
    let (chars, next) := feed state byte
    chars ++ readLeniently next bytes

def textOfBody (bytes : ByteString) : String :=
  match bytes with
  | 0xEF :: 0xBB :: 0xBF :: rest => String.ofList (readLeniently none rest)
  | _ => String.ofList (readLeniently none bytes)

end LedgerWallet.Utf8
