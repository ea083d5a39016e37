import LedgerWallet.Json.Reader

namespace LedgerWallet.Json

/-- Reads the items of a list up to the closing bracket, which is left there. -/
def readItems {α : Type} (item : Reader α) : Nat → Bool → Reader (List α)
  | 0, _, _ => failBehind .endInList []
  | fuel + 1, isFirst, chars => do
    match ← nextItem? isFirst chars with
    | none => .ok ([], chars)
    | some rest =>
      let (value, rest) ← item rest
      let (values, rest) ← readItems item fuel false rest
      .ok (value :: values, rest)

def readMembers (item : Reader Json) : Nat → Bool → Reader (List (String × Json))
  | 0, _, _ => failBehind .endInObject []
  | fuel + 1, isFirst, chars => do
    match ← nextKey? isFirst chars with
    | none => .ok ([], chars)
    | some rest =>
      let (key, rest) ← readString rest
      let (value, rest) ← item (← passColon rest)
      let (members, rest) ← readMembers item fuel false rest
      .ok ((key, value) :: members, rest)

def sortMembers (members : List (String × Json)) : List (String × Json) :=
  members.foldl (fun sorted member => insertMember member.1 member.2 sorted) []

/-- Reads a value with at most `depth` lists and objects in one another. -/
def readValue : Nat → Reader Json
  | depth, chars =>
    match skipSpace chars with
    | [] => failBehind .endInValue []
    | 'n' :: rest => return (.null, ← readIdent ['u', 'l', 'l'] rest)
    | 't' :: rest => return (.bool true, ← readIdent ['r', 'u', 'e'] rest)
    | 'f' :: rest => return (.bool false, ← readIdent ['a', 'l', 's', 'e'] rest)
    | '"' :: rest => do
      let (s, rest) ← readString rest
      return (.string s, rest)
    | '[' :: rest =>
      match depth with
      | 0 => failBehind .tooDeep ('[' :: rest)
      | depth + 1 => do
        let (items, rest) ← readItems (readValue depth) (rest.length + 1) true rest
        return (.array items, ← closeList rest)
    | '{' :: rest =>
      match depth with
      | 0 => failBehind .tooDeep ('{' :: rest)
      | depth + 1 => do
        let (members, rest) ← readMembers (readValue depth) (rest.length + 1) true rest
        return (.object (sortMembers members), ← closeObject rest)
    | c :: rest =>
      if c = '-' || isDigit c then do
        let (n, rest) ← readNumber (c :: rest)
        return (.number n, rest)
      else failBehind .expectedValue (c :: rest)

def depthLimit : Nat := 127

def parse (text : String) : Except Error Json :=
  readAll (readValue depthLimit) text

end LedgerWallet.Json
