import LedgerWallet.Bytes.Hex
import LedgerWallet.Json.Writer
import LedgerWallet.Text.Quoted

namespace LedgerWallet.Json

inductive Found where
  | null
  | bool (b : Bool)
  | number (n : Number)
  | string (s : String)
  | sequence
  | map

def Found.text : Found → String
  | .null => "null"
  | .bool true => "boolean `true`"
  | .bool false => "boolean `false`"
  | .number (.float value) => "floating point `" ++ String.ofList (floatChars value) ++ "`"
  | .number n => "integer `" ++ String.ofList n.chars ++ "`"
  | .string s => "string " ++ Text.quoted s
  | .sequence => "sequence"
  | .map => "map"

def found : Json → Found
  | .null => .null
  | .bool b => .bool b
  | .number n => .number n
  | .string s => .string s
  | .array _ => .sequence
  | .object _ => .map

inductive Fault where
  | endInValue
  | endInList
  | endInObject
  | endInString
  | expectedValue
  | expectedIdent
  | expectedColon
  | expectedListEnd
  | expectedObjectEnd
  | keyNotString
  | trailingComma
  | trailingCharacters
  | invalidNumber
  | numberOutOfRange
  | invalidEscape
  | controlCharacter
  | loneSurrogate
  | unfinishedSurrogate
  | tooDeep
  | invalidType (found : Found) (expected : String)
  | invalidValue (found : Found) (expected : String)
  | invalidLength (length : Nat) (expected : String)
  | missingField (name : String)
  | duplicateField (name : String)

def Fault.text : Fault → String
  | .endInValue => "EOF while parsing a value"
  | .endInList => "EOF while parsing a list"
  | .endInObject => "EOF while parsing an object"
  | .endInString => "EOF while parsing a string"
  | .expectedValue => "expected value"
  | .expectedIdent => "expected ident"
  | .expectedColon => "expected `:`"
  | .expectedListEnd => "expected `,` or `]`"
  | .expectedObjectEnd => "expected `,` or `\x7d`"
  | .keyNotString => "key must be a string"
  | .trailingComma => "trailing comma"
  | .trailingCharacters => "trailing characters"
  | .invalidNumber => "invalid number"
  | .numberOutOfRange => "number out of range"
  | .invalidEscape => "invalid escape"
  | .controlCharacter => "control character (\\u0000-\\u001F) found while parsing a string"
  | .loneSurrogate => "lone leading surrogate in hex escape"
  | .unfinishedSurrogate => "unexpected end of hex escape"
  | .tooDeep => "recursion limit exceeded"
  | .invalidType found expected => "invalid type: " ++ found.text ++ ", expected " ++ expected
  | .invalidValue found expected => "invalid value: " ++ found.text ++ ", expected " ++ expected
  | .invalidLength length expected =>
    "invalid length " ++ Numeral.write length ++ ", expected " ++ expected
  | .missingField name => "missing field `" ++ name ++ "`"
  | .duplicateField name => "duplicate field `" ++ name ++ "`"

/-- A fault, with the number of bytes of the text from its place to the end. -/
structure Failure where
  fault : Fault
  left : Nat

/-- A line, from 1, and the number of bytes passed in it. -/
structure Place where
  line : Nat
  column : Nat
  deriving DecidableEq

def Place.after (passed : ByteString) : Place :=
  let column := (passed.reverse.takeWhile (· ≠ 10)).length
  ⟨1 + passed.count 10, column⟩

/-- A fault in a text, with its place there; a value that was not read from a text has none. -/
structure Error where
  fault : Fault
  place : Option Place

def Error.message (error : Error) : String :=
  match error.place with
  | none => error.fault.text
  | some place =>
    error.fault.text ++ " at line " ++ Numeral.write place.line ++ " column " ++
      Numeral.write place.column

def Failure.locate (text : String) (failure : Failure) : Error :=
  let bytes := Utf8.encode text
  ⟨failure.fault, some (Place.after (bytes.take (bytes.length - failure.left)))⟩

end LedgerWallet.Json
