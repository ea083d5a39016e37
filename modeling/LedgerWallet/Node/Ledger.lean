import LedgerWallet.Node.Basic

namespace LedgerWallet

/-- How one question is to be answered; without an answer the node gives its own. -/
structure Cue (α : Type) where
  delay : Nat
  answer : Option (Except NodeError α)

structure Ledger where
  accounts : List (Address × AccountState)
  submit : List (Cue TransactionState)
  accountState : List (Cue AccountState)
  transactionState : List (Cue TransactionState)

namespace Ledger

def plain (accounts : List (Address × AccountState)) : Ledger :=
  ⟨accounts, [], [], []⟩

def follow {α : Type} (cues : List (Cue α)) (number : Nat) (own : Except NodeError α) : Reply α :=
  match cues[number]? with
  | none => ⟨0, own⟩
  | some cue => ⟨cue.delay, cue.answer.getD own⟩

def answersItself {α : Type} (cues : List (Cue α)) (limit number : Nat) : Bool :=
  match cues[number]? with
  | none => true
  | some cue => cue.answer.isNone && cue.delay ≤ limit

def submissions (calls : List Call) : List ByteString :=
  calls.filterMap fun
    | .submit signed => some signed
    | _ => none

def countAccountStates (calls : List Call) : Nat :=
  calls.countP fun
    | .accountState _ => true
    | _ => false

def countTransactionStates (calls : List Call) : Nat :=
  calls.countP fun
    | .transactionState _ => true
    | _ => false

def recorded (ledger : Ledger) (limit : Nat) (calls : List Call) : List ByteString :=
  ((submissions calls).zipIdx.filter fun entry =>
    answersItself ledger.submit limit entry.2).map Prod.fst

def pending (id : TransactionId) : TransactionState := ⟨id, "pending"⟩

def balance (ledger : Ledger) (address : Address) : AccountState :=
  match ledger.accounts.find? fun entry => entry.1 = address with
  | some entry => entry.2
  | none => ⟨0, 0, 0, 0⟩

def node (ledger : Ledger) (limit : Nat) : Node where
  submit calls signed :=
    follow ledger.submit (submissions calls).length (.ok (pending (sha256 signed)))
  accountState calls address :=
    follow ledger.accountState (countAccountStates calls) (.ok (ledger.balance address))
  transactionState calls id :=
    follow ledger.transactionState (countTransactionStates calls)
      (if (ledger.recorded limit calls).any fun signed => sha256 signed = id then
        .ok (pending id)
      else .error (.refused ("unknown transaction 0x" ++ Hex.encode id.toList)))

end Ledger

end LedgerWallet
