import LedgerWallet.Store.Basic

namespace LedgerWallet

inductive Selector where
  | name (name : String)
  | position (position : Nat)
  deriving DecidableEq

/-- What is typed is always a name; a number may be one too, and `Session.select` decides. -/
def Selector.parse (text : String) : Selector := .name (Text.trim text)

inductive Status where
  | noAccounts
  | noneSelected
  | selected (position : Nat)
  deriving DecidableEq

structure Session where
  current : Option Nat
  deriving DecidableEq

namespace Session

def start : Session := ⟨none⟩

def status (session : Session) (store : Store) : Status :=
  match session.current with
  | some position => .selected position
  | none => if store.isEmpty then .noAccounts else .noneSelected

def accountCreated (session : Session) (position : Nat) : Session :=
  if session.current = none ∧ position = 1 then ⟨some position⟩ else session

/-- The position that a selector stands for. The name of an account comes before a number. -/
def locate (store : Store) : Selector → Except StoreError Nat
  | .position position => (store.get position).map fun _ => position
  | .name name =>
    match store.positionOf? name with
    | some position => .ok position
    | none =>
      match Numeral.read (Nat.pow 2 64) name with
      | .ok position => (store.get position).map fun _ => position
      | .error _ => .error (.notFound name)

def select (store : Store) (selector : Selector) : Except StoreError (Account × Session) := do
  let position ← locate store selector
  let account ← store.get position
  return (account, ⟨some position⟩)

def currentAccount? (session : Session) (store : Store) : Option Account :=
  match session.current with
  | none => none
  | some position => (store.get position).toOption

end Session

end LedgerWallet
