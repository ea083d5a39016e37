import LedgerWallet.Account
import LedgerWallet.Json.Record

namespace LedgerWallet

def FixedBytes.toJson {n : Nat} (bytes : FixedBytes n) : Json :=
  .array (bytes.toList.map fun byte => .number (.natural byte.toNat))

namespace Address

def toJson (address : Address) : Json := address.bytes.toJson

def parseJson (text : String) : Except Json.Error Address :=
  (Json.readAll (Json.readBytes 20 "an array of length 20") text).map Address.mk

end Address

namespace Signature

def toJson (signature : Signature) : Json := signature.bytes.toJson

def parseJson (text : String) : Except Json.Error Signature :=
  (Json.readAll (Json.readBytes 64 "a 64-byte signature") text).map Signature.mk

end Signature

end LedgerWallet
