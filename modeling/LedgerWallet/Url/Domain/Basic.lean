import LedgerWallet.Text.Composition
import LedgerWallet.Url.Domain.Direction
import LedgerWallet.Url.Domain.Joining
import LedgerWallet.Url.Punycode

namespace LedgerWallet.Url.Domain

structure Label where
  letters : List Char
  written : List Char

def isAscii (c : Char) : Bool := c.toNat < 0x80

def codedMark : List Char := ['x', 'n', '-', '-']

def letterLimit : Nat := 1000

def codedLimit : Nat := 2000

def isSound (letters : List Char) : Bool :=
  !letters.head?.any Text.isMark && joinersFit [] letters

def decodeLabel? (code : List Char) : Option (List Char) := do
  guard (code.all isAscii ∧ code.length ≤ codedLimit)
  let letters ← Punycode.decode? code
  guard (!letters.all isAscii && letters.all isSettled && Text.compose letters = letters &&
    !codedMark.isPrefixOf letters && isSound letters)
  return letters

def readLabel? (chars : List Char) : Option Label :=
  match Text.dropStart? codedMark chars with
  | some code => (decodeLabel? code).map fun letters => ⟨letters, chars⟩
  | none =>
    if chars.all isAscii then some ⟨chars, chars⟩
    else do
      guard (isSound chars ∧ chars.length ≤ letterLimit)
      return ⟨chars, codedMark ++ Punycode.encode chars⟩

def read? (name : List Char) : Option (List (List Char)) := do
  let spelled ← name.mapM spelling?
  let labels ← (Text.pieces (· = '.') (Text.compose spelled.flatten)).mapM readLabel?
  guard (areDirected (labels.map Label.letters))
  return labels.map Label.written

end LedgerWallet.Url.Domain
