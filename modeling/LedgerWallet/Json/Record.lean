import LedgerWallet.Json.Parser
import LedgerWallet.Json.Skip

namespace LedgerWallet.Json

/-- Names the value at hand when it is not of the expected kind, at the place behind what had to
be read to name it. -/
def failMismatch {α : Type} (expected : String) (chars : List Char) : Except Failure α :=
  match chars with
  | [] => failBehind .endInValue []
  | 'n' :: rest => do
    failAt (.invalidType .null expected) (← readIdent ['u', 'l', 'l'] rest)
  | 't' :: rest => do
    failAt (.invalidType (.bool true) expected) (← readIdent ['r', 'u', 'e'] rest)
  | 'f' :: rest => do
    failAt (.invalidType (.bool false) expected) (← readIdent ['a', 'l', 's', 'e'] rest)
  | '"' :: rest => do
    let (s, rest) ← readString rest
    failAt (.invalidType (.string s) expected) rest
  | '[' :: rest => failAt (.invalidType .sequence expected) ('[' :: rest)
  | '{' :: rest => failAt (.invalidType .map expected) ('{' :: rest)
  | c :: rest =>
    if c = '-' || isDigit c then do
      let (n, rest) ← readNumber (c :: rest)
      failAt (.invalidType (.number n) expected) rest
    else failBehind .expectedValue (c :: rest)

/-- A kind of values with its two readers: from text, and from a value read before. -/
structure Shape (α : Type) where
  read : Reader α
  ofValue : Json → Except Fault α

namespace Shape

def text (expected : String) : Shape String where
  read chars :=
    match skipSpace chars with
    | '"' :: rest => readString rest
    | rest => failMismatch expected rest
  ofValue
    | .string s => .ok s
    | value => .error (.invalidType value.found expected)

end Shape

structure Bounded where
  bound : Nat
  expected : String

def byteRange : Bounded := ⟨256, "u8"⟩

def wordRange : Bounded := ⟨Nat.pow 2 64, "u64"⟩

namespace Bounded

def check (range : Bounded) : Number → Except Fault Nat
  | .natural n =>
    if n < range.bound then .ok n
    else .error (.invalidValue (.number (.natural n)) range.expected)
  | .negative m => .error (.invalidValue (.number (.negative m)) range.expected)
  | .float value => .error (.invalidType (.number (.float value)) range.expected)

def read (range : Bounded) : Reader Nat := fun chars =>
  match skipSpace chars with
  | c :: rest =>
    if c = '-' || isDigit c then do
      let (n, rest) ← readNumber (c :: rest)
      match range.check n with
      | .ok value => .ok (value, rest)
      | .error fault => failAt fault rest
    else failMismatch range.expected (c :: rest)
  | [] => failMismatch range.expected []

def ofValue (range : Bounded) : Json → Except Fault Nat
  | .number n => range.check n
  | value => .error (.invalidType value.found range.expected)

end Bounded

namespace Shape

def word : Shape UInt64 where
  read chars := do
    let (n, rest) ← wordRange.read chars
    .ok (UInt64.ofNat n, rest)
  ofValue value := (wordRange.ofValue value).map UInt64.ofNat

def list {α : Type} (item : Shape α) : Shape (List α) where
  read chars :=
    match skipSpace chars with
    | '[' :: rest => do
      let (items, rest) ← readItems item.read (rest.length + 1) true rest
      return (items, ← closeList rest)
    | rest => failMismatch "a sequence" rest
  ofValue
    | .array items => items.mapM item.ofValue
    | value => .error (.invalidType value.found "a sequence")

end Shape

def readUpTo {α : Type} (item : Reader α) : Nat → Bool → Reader (List α)
  | 0, _, chars => .ok ([], chars)
  | count + 1, isFirst, chars => do
    match ← nextItem? isFirst chars with
    | none => .ok ([], chars)
    | some rest =>
      let (value, rest) ← item rest
      let (values, rest) ← readUpTo item count false rest
      .ok (value :: values, rest)

def readBytes (n : Nat) (expected : String) : Reader (FixedBytes n) := fun chars =>
  match skipSpace chars with
  | '[' :: rest => do
    let (items, rest) ← readUpTo (byteRange.read) n true rest
    match FixedBytes.ofList? (n := n) (items.map UInt8.ofNat) with
    | some bytes => return (bytes, ← closeList rest)
    | none => .error ⟨.invalidLength items.length expected, passed closeList rest⟩
  | rest => failMismatch expected rest

structure Member (δ : Type) where
  key : String
  isGiven : δ → Bool
  read : δ → Reader δ
  ofValue : δ → Json → Except Fault δ

def Member.ofShape {δ β : Type} (key : String) (shape : Shape β) (get : δ → Option β)
    (set : β → δ → δ) : Member δ where
  key := key
  isGiven draft := (get draft).isSome
  read draft chars := do
    let (value, rest) ← shape.read chars
    .ok (set value draft, rest)
  ofValue draft value := (shape.ofValue value).map (set · draft)

def required {β : Type} (key : String) : Option β → Except Fault β
  | some value => .ok value
  | none => .error (.missingField key)

/-- A record: the name of its kind, its members in order, the draft before any member is read,
and what a draft gives in the end. A short list is refused unless missing members have values of
their own. -/
structure Record (δ α : Type) where
  kind : String
  members : List (Member δ)
  blank : δ
  complete : δ → Except Fault α
  mayBeShort : Bool := false

namespace Record

variable {δ α : Type}

def expected (r : Record δ α) : String := "struct " ++ r.kind

def expectedLength (r : Record δ α) : String :=
  r.expected ++ " with " ++ Numeral.write r.members.length ++
    (if r.members.length = 1 then " element" else " elements")

def member? (r : Record δ α) (key : String) : Option (Member δ) :=
  r.members.find? fun m => m.key = key

/-- Reads the members of an object into a draft, up to the closing brace, which is left there.
A member that the record does not have is passed over. -/
def readObject (r : Record δ α) : Nat → Bool → δ → Reader δ
  | 0, _, _, _ => failBehind .endInObject []
  | fuel + 1, isFirst, draft, chars => do
    match ← nextKey? isFirst chars with
    | none => .ok (draft, chars)
    | some rest =>
      let (key, rest) ← readString rest
      match r.member? key with
      | none => do
        let rest ← skipValue (← passColon rest)
        readObject r fuel false draft rest
      | some m =>
        if m.isGiven draft then .error ⟨.duplicateField key, passed closeObject rest⟩
        else do
          let (draft, rest) ← m.read draft (← passColon rest)
          readObject r fuel false draft rest

def readListed : List (Member δ) → Nat → δ → Reader (δ × Nat)
  | [], count, draft, chars => .ok ((draft, count), chars)
  | m :: members, count, draft, chars => do
    match ← nextItem? (count = 0) chars with
    | none => .ok ((draft, count), chars)
    | some rest =>
      let (draft, rest) ← m.read draft rest
      readListed members (count + 1) draft rest

def read (r : Record δ α) : Reader α := fun chars =>
  match skipSpace chars with
  | '{' :: rest => do
    let (draft, rest) ← r.readObject (rest.length + 1) true r.blank rest
    match r.complete draft with
    | .ok value => return (value, ← closeObject rest)
    | .error fault => .error ⟨fault, passed closeObject rest⟩
  | '[' :: rest => do
    let ((draft, count), rest) ← readListed r.members 0 r.blank rest
    if count < r.members.length ∧ !r.mayBeShort then
      .error ⟨.invalidLength count r.expectedLength, passed closeList rest⟩
    else
      match r.complete draft with
      | .ok value => return (value, ← closeList rest)
      | .error fault => .error ⟨fault, passed closeList rest⟩
  | rest => failMismatch r.expected rest

def ofMembers (r : Record δ α) : List (String × Json) → δ → Except Fault δ
  | [], draft => .ok draft
  | (key, value) :: rest, draft =>
    match r.member? key with
    | none => ofMembers r rest draft
    | some m => do
      if m.isGiven draft then .error (.duplicateField key)
      else ofMembers r rest (← m.ofValue draft value)

def ofItems : List (Member δ) → Nat → List Json → δ → Except Fault (δ × Nat × List Json)
  | m :: members, count, value :: rest, draft => do
    ofItems members (count + 1) rest (← m.ofValue draft value)
  | _, count, rest, draft => .ok (draft, count, rest)

def ofValue (r : Record δ α) : Json → Except Fault α
  | .object members => do r.complete (← r.ofMembers members r.blank)
  | .array items => do
    let (draft, count, rest) ← ofItems r.members 0 items r.blank
    if count < r.members.length ∧ !r.mayBeShort then
      .error (.invalidLength count r.expectedLength)
    else
      let value ← r.complete draft
      if rest.isEmpty then .ok value
      else .error (.invalidLength items.length "fewer elements in array")
  | value => .error (.invalidType value.found r.expected)

def shape (r : Record δ α) : Shape α := ⟨r.read, r.ofValue⟩

def parse (r : Record δ α) (text : String) : Except Error α :=
  readAll r.read text

end Record

end LedgerWallet.Json
