import LedgerWallet.Bytes.Hex

namespace LedgerWallet.Percent

def isKept (marks : List Char) (c : Char) : Bool :=
  ' ' ≤ c && c ≤ '~' && !marks.contains c

def encodeByte (byte : UInt8) : List Char :=
  '%' :: (Hex.encodeByte byte).map Char.toUpper

def encodeChar (marks : List Char) (c : Char) : List Char :=
  if isKept marks c then [c] else (Utf8.encode c.toString).flatMap encodeByte

def encode (marks : List Char) (chars : List Char) : List Char :=
  chars.flatMap (encodeChar marks)

def decode : List Char → ByteString
  | [] => []
  | '%' :: high :: low :: rest =>
    match Hex.digitValue? high, Hex.digitValue? low with
    | some h, some l => UInt8.ofNat (16 * h + l) :: decode rest
    | _, _ => 0x25 :: decode (high :: low :: rest)
  | c :: rest => Utf8.encode c.toString ++ decode rest

def fragmentMarks : List Char := [' ', '"', '<', '>', '`']

def pathMarks : List Char := fragmentMarks ++ ['#', '?', '\x7b', '\x7d']

def queryMarks (isSpecial : Bool) : List Char :=
  [' ', '"', '#', '<', '>'] ++ if isSpecial then ['\x27'] else []

end LedgerWallet.Percent
