namespace LedgerWallet.Text

/-- The 25 characters with the property White_Space. -/
def isBlank (c : Char) : Bool :=
  let n := c.toNat
  (9 ≤ n && n ≤ 13) || n == 0x20 || n == 0x85 || n == 0xA0 || n == 0x1680 ||
    (0x2000 ≤ n && n ≤ 0x200A) || n == 0x2028 || n == 0x2029 || n == 0x202F ||
    n == 0x205F || n == 0x3000

def trimStartChars (chars : List Char) : List Char :=
  chars.dropWhile isBlank

def trimEndChars (chars : List Char) : List Char :=
  (chars.reverse.dropWhile isBlank).reverse

def trimChars (chars : List Char) : List Char :=
  trimEndChars (trimStartChars chars)

def trim (text : String) : String :=
  String.ofList (trimChars text.toList)

def isAllBlank (text : String) : Bool :=
  text.toList.all isBlank

def wordsOfChars : List Char → List (List Char)
  | [] => []
  | c :: rest =>
    if isBlank c then wordsOfChars rest
    else
      match rest, wordsOfChars rest with
      | d :: _, word :: words => if isBlank d then [c] :: word :: words else (c :: word) :: words
      | _, words => [c] :: words

def words (text : String) : List String :=
  (wordsOfChars text.toList).map String.ofList

def dropStart? : List Char → List Char → Option (List Char)
  | [], chars => some chars
  | _ :: _, [] => none
  | s :: start, c :: chars => if s = c then dropStart? start chars else none

def dropHexMark (text : String) : String :=
  match dropStart? ['0', 'x'] text.toList with
  | some rest => String.ofList rest
  | none => text

end LedgerWallet.Text
