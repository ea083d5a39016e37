namespace LedgerWallet

inductive Json.Number where
  | natural (n : Nat)
  | negative (magnitude : Nat)
  | float (value : Float)

inductive Json where
  | null
  | bool (b : Bool)
  | number (n : Json.Number)
  | string (s : String)
  | array (items : List Json)
  | object (members : List (String × Json))

namespace Json

def isNull : Json → Bool
  | null => true
  | _ => false

/-- Puts a member into members sorted by key; a later value of a key replaces an earlier one. -/
def insertMember (key : String) (value : Json) :
    List (String × Json) → List (String × Json)
  | [] => [(key, value)]
  | (k, v) :: rest =>
    if key < k then (key, value) :: (k, v) :: rest
    else if key = k then (key, value) :: rest
    else (k, v) :: insertMember key value rest

def lookup? (key : String) (members : List (String × Json)) : Option Json :=
  (members.find? fun member => member.1 = key).map Prod.snd

end Json

end LedgerWallet
