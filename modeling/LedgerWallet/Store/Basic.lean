import LedgerWallet.Account
import LedgerWallet.Files.Error
import LedgerWallet.Files.Path
import LedgerWallet.Json.Fault

namespace LedgerWallet

inductive Defect where
  | malformed (error : Json.Error)
  | duplicateName (name : String)
  | badPublicKey (name : String)
  | badPrivateKey (name : String)
  | keyMismatch (error : Account.KeyMismatch)

def Defect.message : Defect → String
  | .malformed error => error.message
  | .duplicateName name => "duplicate alias `" ++ name ++ "`"
  | .badPublicKey name => "bad public key for `" ++ name ++ "`"
  | .badPrivateKey name => "bad private key for `" ++ name ++ "`"
  | .keyMismatch error => "Signing failed: " ++ error.message

inductive StoreError where
  | corrupt (path : Path) (defect : Defect)
  | duplicateName (name : String)
  | blankName (name : String)
  | notFound (name : String)
  | positionOutOfRange (position size : Nat)
  | keyMismatch (error : Account.KeyMismatch)
  | io (error : IoError)

def StoreError.message : StoreError → String
  | .corrupt path defect => "Corrupt account store at " ++ path.text ++ ": " ++ defect.message
  | .duplicateName name => "Duplicate alias: an account named `" ++ name ++ "` already exists"
  | .blankName name => "Invalid alias: " ++ Text.quoted name
  | .notFound name => "Account not found: " ++ name
  | .positionOutOfRange position size =>
    "Account index " ++ Numeral.write position ++ " out of range (1..=" ++ Numeral.write size ++ ")"
  | .keyMismatch error => "Signing failed: " ++ error.message
  | .io error => "IO error: " ++ error.message

/-- The seeds that new key pairs are made from, and how many are used up. -/
structure Seeds where
  seed : Nat → Seed
  drawn : Nat

namespace Seeds

def next (seeds : Seeds) : Seed := seeds.seed seeds.drawn

def rest (seeds : Seeds) : Seeds := { seeds with drawn := seeds.drawn + 1 }

end Seeds

structure Store where
  accounts : List Account
  deriving DecidableEq

namespace Store

def empty : Store := ⟨[]⟩

def size (store : Store) : Nat := store.accounts.length

def isEmpty (store : Store) : Bool := store.accounts.isEmpty

def names (store : Store) : List String := store.accounts.map Account.name

def find (store : Store) (name : String) : Except StoreError Account :=
  match store.accounts.find? fun account => account.name = name with
  | some account => .ok account
  | none => .error (.notFound name)

def get (store : Store) (position : Nat) : Except StoreError Account :=
  match position with
  | 0 => .error (.positionOutOfRange 0 store.size)
  | index + 1 =>
    match store.accounts[index]? with
    | some account => .ok account
    | none => .error (.positionOutOfRange (index + 1) store.size)

def positionOf? (store : Store) (name : String) : Option Nat :=
  (store.accounts.findIdx? fun account => account.name = name).map (· + 1)

def add (store : Store) (account : Account) : Store :=
  ⟨store.accounts ++ [account]⟩

/-- Adds an account with new keys. A name that is blank or taken is refused, and then no seed is
drawn. -/
def create (store : Store) (seeds : Seeds) (name : String) : Except StoreError (Store × Seeds) :=
  if Text.isAllBlank name then .error (.blankName name)
  else if (store.positionOf? name).isSome then .error (.duplicateName name)
  else .ok (store.add (Account.generate seeds.next name), seeds.rest)

end Store

end LedgerWallet
