namespace LedgerWallet.Text

def extendPieces (separates : Char → Bool) (c : Char) : List (List Char) → List (List Char)
  | [] => [[c]]
  | first :: others => if separates c then [] :: first :: others else (c :: first) :: others

def pieces (separates : Char → Bool) (chars : List Char) : List (List Char) :=
  chars.foldr (extendPieces separates) [[]]

end LedgerWallet.Text
