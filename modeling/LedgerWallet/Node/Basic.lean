import LedgerWallet.Json.Record
import LedgerWallet.Transfer

namespace LedgerWallet

/-- An account as a node sees it. The projected values count pending transfers as done. -/
structure AccountState where
  currentBalance : Amount
  currentNonce : Nonce
  projectedBalance : Amount
  projectedNonce : Nonce
  deriving DecidableEq

structure TransactionState where
  id : TransactionId
  label : String
  deriving DecidableEq

inductive NodeError where
  | http (detail : String)
  | timeout (what : String)
  | refused (detail : String)
  | invalidResponse (detail : String)
  deriving DecidableEq

def NodeError.message : NodeError → String
  | .http detail => "HTTP error: " ++ detail
  | .timeout what => "Timeout waiting for " ++ what
  | .refused detail => "Node request failed: " ++ detail
  | .invalidResponse detail => "Invalid response: " ++ detail

namespace AccountState

structure Draft where
  currentBalance : Option Amount
  currentNonce : Option Nonce
  projectedBalance : Option Amount
  projectedNonce : Option Nonce

def record : Json.Record Draft AccountState where
  kind := "AccountState"
  members := [
    .ofShape "currentBalance" .word Draft.currentBalance
      fun v d => { d with currentBalance := some v },
    .ofShape "currentNonce" .word Draft.currentNonce fun v d => { d with currentNonce := some v },
    .ofShape "projectedBalance" .word Draft.projectedBalance
      fun v d => { d with projectedBalance := some v },
    .ofShape "projectedNonce" .word Draft.projectedNonce
      fun v d => { d with projectedNonce := some v }]
  blank := ⟨none, none, none, none⟩
  complete draft := do
    let currentBalance ← Json.required "currentBalance" draft.currentBalance
    let currentNonce ← Json.required "currentNonce" draft.currentNonce
    let projectedBalance ← Json.required "projectedBalance" draft.projectedBalance
    let projectedNonce ← Json.required "projectedNonce" draft.projectedNonce
    return ⟨currentBalance, currentNonce, projectedBalance, projectedNonce⟩

def toJson (state : AccountState) : Json :=
  let number (word : UInt64) : Json := .number (.natural word.toNat)
  .object [("currentBalance", number state.currentBalance),
    ("currentNonce", number state.currentNonce),
    ("projectedBalance", number state.projectedBalance),
    ("projectedNonce", number state.projectedNonce)]

def parseJson (text : String) : Except Json.Error AccountState :=
  record.parse text

end AccountState

namespace TransactionState

/-- The text without any `0x` at its front, however often it stands there. -/
def dropHexMarks : List Char → List Char
  | '0' :: 'x' :: rest => dropHexMarks rest
  | chars => chars

def ofMessage (id label : String) : Except NodeError TransactionState :=
  match Hex.decodeFixed? 32 (String.ofList (dropHexMarks id.toList)) with
  | some bytes => .ok ⟨bytes, label⟩
  | none => .error (.invalidResponse ("bad transaction id: " ++ id))

def display (state : TransactionState) : String :=
  "0x" ++ Hex.encode state.id.toList ++ " (" ++ state.label ++ ")"

end TransactionState

inductive Call where
  | submit (signed : ByteString)
  | accountState (address : Address)
  | transactionState (id : TransactionId)
  deriving DecidableEq

structure Reply (α : Type) where
  delay : Nat
  answer : Except NodeError α

def Reply.within {α : Type} (reply : Reply α) (limit : Nat) (what : String) : Except NodeError α :=
  if reply.delay ≤ limit then reply.answer else .error (.timeout what)

/-- A node is what it answers to each question, after the questions that it was asked before. -/
structure Node where
  submit : List Call → ByteString → Reply TransactionState
  accountState : List Call → Address → Reply AccountState
  transactionState : List Call → TransactionId → Reply TransactionState

end LedgerWallet
