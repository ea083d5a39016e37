namespace LedgerWallet.Text

inductive Style where
  | bold
  | red
  | green
  | yellow
  deriving DecidableEq

def Style.code : Style → List Char
  | .bold => ['\x1b', '[', '1', 'm']
  | .red => ['\x1b', '[', '3', '1', 'm']
  | .green => ['\x1b', '[', '3', '2', 'm']
  | .yellow => ['\x1b', '[', '3', '3', 'm']

def resetCode : List Char := ['\x1b', '[', '0', 'm']

def reopen (code : List Char) : List Char → List Char
  | '\x1b' :: '[' :: '0' :: 'm' :: rest => resetCode ++ code ++ reopen code rest
  | c :: rest => c :: reopen code rest
  | [] => []

def Style.paint (style : Style) (isColored : Bool) (text : String) : String :=
  if isColored then String.ofList (style.code ++ reopen style.code text.toList ++ resetCode)
  else text

def padEnd (width : Nat) (text : String) : String :=
  String.ofList (text.toList ++ List.replicate (width - text.length) ' ')

end LedgerWallet.Text
