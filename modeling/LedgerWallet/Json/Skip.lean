import LedgerWallet.Json.Reader

namespace LedgerWallet.Json

def skipStringChars : Nat → List Char → Except Failure (List Char)
  | 0, _ => failAt .endInString []
  | _ + 1, [] => failAt .endInString []
  | fuel + 1, c :: rest =>
    if c = '"' then .ok rest
    else if c = '\\' then
      match rest with
      | [] => failAt .endInString []
      | d :: rest =>
        if d = 'u' then do
          let (_, rest) ← readFourHex rest
          skipStringChars fuel rest
        else if (simpleEscape? d).isSome then skipStringChars fuel rest
        else failBehind .invalidEscape (d :: rest)
    else if c.toNat < 0x20 then failAt .controlCharacter (c :: rest)
    else skipStringChars fuel rest

def skipString (chars : List Char) : Except Failure (List Char) :=
  skipStringChars chars.length chars

def skipExponent (chars : List Char) : Except Failure (List Char) :=
  let digits :=
    match chars with
    | '+' :: rest => rest
    | '-' :: rest => rest
    | _ => chars
  if startsWithDigit digits then .ok (digits.dropWhile isDigit)
  else failBehind .invalidNumber digits

def skipFraction : List Char → Except Failure (List Char)
  | '.' :: rest =>
    if startsWithDigit rest then
      match rest.dropWhile isDigit with
      | 'e' :: rest => skipExponent rest
      | 'E' :: rest => skipExponent rest
      | rest => .ok rest
    else failBehind .invalidNumber rest
  | 'e' :: rest => skipExponent rest
  | 'E' :: rest => skipExponent rest
  | rest => .ok rest

def skipUnsigned : List Char → Except Failure (List Char)
  | '0' :: rest =>
    if startsWithDigit rest then failBehind .invalidNumber rest else skipFraction rest
  | chars =>
    if startsWithDigit chars then skipFraction (chars.dropWhile isDigit)
    else failBehind .invalidNumber chars

inductive Enclosing where
  | list
  | object
  deriving DecidableEq

inductive Opening where
  | whole (rest : List Char)
  | inside (enclosing : Enclosing) (rest : List Char)

def openValue (chars : List Char) : Except Failure Opening :=
  match skipSpace chars with
  | [] => failBehind .endInValue []
  | 'n' :: rest => return .whole (← readIdent ['u', 'l', 'l'] rest)
  | 't' :: rest => return .whole (← readIdent ['r', 'u', 'e'] rest)
  | 'f' :: rest => return .whole (← readIdent ['a', 'l', 's', 'e'] rest)
  | '-' :: rest => return .whole (← skipUnsigned rest)
  | '"' :: rest => return .whole (← skipString rest)
  | '[' :: rest => return .inside .list rest
  | '{' :: rest => return .inside .object rest
  | c :: rest =>
    if isDigit c then return .whole (← skipUnsigned (c :: rest))
    else failBehind .expectedValue (c :: rest)

/-- Passes the closing marks behind a value and the comma before the next one; gives what that
stands in, which is nothing when the outermost value is passed. -/
def closeValues : Bool → List Enclosing → List Char → Except Failure (List Enclosing × List Char)
  | _, [], chars => .ok ([], chars)
  | isBehindValue, frame :: frames, chars =>
    match skipSpace chars with
    | [] => failBehind (if frame = .list then .endInList else .endInObject) []
    | c :: rest =>
      if c = ',' ∧ isBehindValue then .ok (frame :: frames, rest)
      else if (c = ']' ∧ frame = .list) ∨ (c = '}' ∧ frame = .object) then
        closeValues true frames rest
      else if isBehindValue then
        failBehind (if frame = .list then .expectedListEnd else .expectedObjectEnd) (c :: rest)
      else .ok (frame :: frames, c :: rest)

def skipKey (chars : List Char) : Except Failure (List Char) :=
  match skipSpace chars with
  | [] => failBehind .endInObject []
  | '"' :: rest => do passColon (← skipString rest)
  | rest => failBehind .keyNotString rest

def skipValues : Nat → List Enclosing → List Char → Except Failure (List Char)
  | 0, _, _ => failBehind .endInValue []
  | fuel + 1, frames, chars => do
    let (frames, chars) ←
      match ← openValue chars with
      | .whole rest => closeValues true frames rest
      | .inside frame rest => closeValues false (frame :: frames) rest
    match frames with
    | [] => .ok chars
    | .list :: _ => skipValues fuel frames chars
    | .object :: _ => do skipValues fuel frames (← skipKey chars)

def skipValue (chars : List Char) : Except Failure (List Char) :=
  skipValues (chars.length + 1) [] chars

end LedgerWallet.Json
