import LedgerWallet.Text.Numeral

namespace LedgerWallet

abbrev Amount := UInt64

abbrev Nonce := UInt64

namespace Amount

def perCoin : Nat := Nat.pow 10 12

def coinUnit : String := "SMH"

def smallestUnit : String := "Smidge"

/-- Amounts from one hundredth of a coin on are shown in coins with twelve decimals, and all
others in smallest units. -/
def display (amount : Amount) : String :=
  let n := amount.toNat
  if perCoin / 100 ≤ n then
    Numeral.write (n / perCoin) ++ "." ++ Numeral.writePadded 12 (n % perCoin) ++ " " ++ coinUnit
  else
    Numeral.write n ++ " " ++ smallestUnit

end Amount

end LedgerWallet
