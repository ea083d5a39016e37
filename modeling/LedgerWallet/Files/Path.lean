import LedgerWallet.Bytes.Utf8
import LedgerWallet.Text.Pieces

namespace LedgerWallet

structure Path where
  text : String
  deriving DecidableEq

namespace Path

def pieces (path : Path) : List (List Char) :=
  Text.pieces (· = '/') path.text.toList

def steps (path : Path) : List String :=
  (path.pieces.filter (· ≠ [])).map String.ofList

def isAbsolute (path : Path) : Bool :=
  path.text.toList.head? = some '/'

def endsInSlash (path : Path) : Bool :=
  path.text.toList.getLast? = some '/'

def hasNull (path : Path) : Bool :=
  path.text.toList.contains '\x00'

def size (path : Path) : Nat :=
  Utf8.size path.text.toList

def isIdle (piece : List Char) : Bool := piece = [] || piece = ['.']

def dropIdleEnd (pieces : List (List Char)) : List (List Char) :=
  (pieces.reverse.dropWhile isIdle).reverse

def parentPieces (path : Path) : List (List Char) :=
  dropIdleEnd (dropIdleEnd path.pieces).dropLast

def parentSteps (path : Path) : List String :=
  (path.parentPieces.filter fun piece => !isIdle piece).map String.ofList

def parent (path : Path) : Path :=
  ⟨String.ofList (List.intercalate ['/'] path.parentPieces)⟩

def join (directory : Path) (name : String) : Path :=
  if directory.text = "" ∨ directory.endsInSlash then ⟨directory.text ++ name⟩
  else ⟨directory.text ++ "/" ++ name⟩

end Path

end LedgerWallet
