import LedgerWallet.Json.Fault

namespace LedgerWallet.Json

abbrev Reader (α : Type) := List Char → Except Failure (α × List Char)

def failAt {α : Type} (fault : Fault) (rest : List Char) : Except Failure α :=
  .error ⟨fault, Utf8.size rest⟩

/-- Fails one byte behind the front of the text that is left, or at its end. -/
def failBehind {α : Type} (fault : Fault) (rest : List Char) : Except Failure α :=
  .error ⟨fault, Utf8.size rest - 1⟩

def isSpace (c : Char) : Bool :=
  c = ' ' || c = '\n' || c = '\t' || c = '\r'

def skipSpace (chars : List Char) : List Char :=
  chars.dropWhile isSpace

def readIdent : List Char → List Char → Except Failure (List Char)
  | [], rest => .ok rest
  | _ :: _, [] => failAt .endInValue []
  | c :: word, d :: rest => if c = d then readIdent word rest else failBehind .expectedIdent (d :: rest)

def hexValue? : List Char → Nat → Option Nat
  | [], value => some value
  | c :: rest, value =>
    match Hex.digitValue? c with
    | some d => hexValue? rest (16 * value + d)
    | none => none

/-- Reads four hexadecimal digits, taken as four bytes. -/
def readFourHex : Reader Nat
  | a :: b :: c :: d :: rest =>
    match hexValue? [a, b, c, d] 0 with
    | some value => .ok (value, rest)
    | none => .error ⟨.invalidEscape, Utf8.size (a :: b :: c :: d :: rest) - 4⟩
  | chars =>
    if Utf8.size chars < 4 then failAt .endInString []
    else .error ⟨.invalidEscape, Utf8.size chars - 4⟩

def isLeadSurrogate (n : Nat) : Bool := 0xD800 ≤ n && n < 0xDC00

def isTrailSurrogate (n : Nat) : Bool := 0xDC00 ≤ n && n < 0xE000

def readTrailSurrogate (lead : Nat) : Reader Char
  | [] => failAt .endInString []
  | ['\\'] => failAt .endInString []
  | '\\' :: 'u' :: rest => do
    let (trail, rest) ← readFourHex rest
    if isTrailSurrogate trail then
      .ok (Char.ofNat (0x10000 + (lead - 0xD800) * 0x400 + (trail - 0xDC00)), rest)
    else failAt .loneSurrogate rest
  | '\\' :: rest => failBehind .unfinishedSurrogate rest
  | rest => failBehind .unfinishedSurrogate rest

def readCodeUnit (chars : List Char) : Except Failure (Char × List Char) := do
  let (unit, rest) ← readFourHex chars
  if isTrailSurrogate unit then failAt .loneSurrogate rest
  else if isLeadSurrogate unit then readTrailSurrogate unit rest
  else .ok (Char.ofNat unit, rest)

def simpleEscape? : Char → Option Char
  | '"' => some '"'
  | '\\' => some '\\'
  | '/' => some '/'
  | 'b' => some '\x08'
  | 'f' => some '\x0c'
  | 'n' => some '\n'
  | 'r' => some '\r'
  | 't' => some '\t'
  | _ => none

def readEscape : Reader Char
  | [] => failAt .endInString []
  | c :: rest =>
    if c = 'u' then readCodeUnit rest
    else
      match simpleEscape? c with
      | some d => .ok (d, rest)
      | none => failBehind .invalidEscape (c :: rest)

/-- Reads the characters behind an opening quotation mark, and the closing one. Each step takes
at least one character, so the length of the text bounds the steps. -/
def readStringChars : Nat → Reader (List Char)
  | 0, _ => failAt .endInString []
  | _ + 1, [] => failAt .endInString []
  | fuel + 1, c :: rest =>
    if c = '"' then .ok ([], rest)
    else if c = '\\' then do
      let (d, rest) ← readEscape rest
      let (chars, rest) ← readStringChars fuel rest
      .ok (d :: chars, rest)
    else if c.toNat < 0x20 then failBehind .controlCharacter (c :: rest)
    else do
      let (chars, rest) ← readStringChars fuel rest
      .ok (c :: chars, rest)

def readString (chars : List Char) : Except Failure (String × List Char) := do
  let (text, rest) ← readStringChars chars.length chars
  .ok (String.ofList text, rest)

def significandBound : Nat := Nat.pow 2 64

/-- Takes digits into a number while it stays below `2 ^ 64`; gives the number, how many digits
it took and the text behind them. -/
def takeDigits : List Char → Nat → Nat → Nat × Nat × List Char
  | [], value, taken => (value, taken, [])
  | c :: rest, value, taken =>
    match Numeral.digitValue? c with
    | some d =>
      if 10 * value + d < significandBound then takeDigits rest (10 * value + d) (taken + 1)
      else (value, taken, c :: rest)
    | none => (value, taken, c :: rest)

def isDigit (c : Char) : Bool := (Numeral.digitValue? c).isSome

def startsWithDigit : List Char → Bool
  | [] => false
  | c :: _ => isDigit c

/-- Scales a significand by a power of ten, in steps that a floating-point number can hold. -/
def scaleFloat (exponent : Int) : Nat → Float → Option Float
  | 0, f => some f
  | fuel + 1, f =>
    if exponent.natAbs ≤ 308 then
      let power := Float.ofScientific 1 false exponent.natAbs
      if 0 ≤ exponent then
        if (f * power).isInf then none else some (f * power)
      else some (f / power)
    else if f == 0 then some f
    else if 0 ≤ exponent then none
    else scaleFloat (exponent + 308) fuel (f / Float.ofScientific 1 false 308)

def floatOfParts (isNegative : Bool) (significand : Nat) (exponent : Int) (rest : List Char) :
    Except Failure (Number × List Char) :=
  match scaleFloat exponent (exponent.natAbs / 308 + 2) (Float.ofNat significand) with
  | none => failAt .numberOutOfRange rest
  | some f => .ok (.float (if isNegative then -f else f), rest)

def exponentBound : Nat := Nat.pow 2 31

def takeExponent : List Char → Nat → Option Nat × List Char
  | [], value => (some value, [])
  | c :: rest, value =>
    match Numeral.digitValue? c with
    | some d =>
      if 10 * value + d < exponentBound then takeExponent rest (10 * value + d)
      else (none, rest)
    | none => (some value, c :: rest)

def readExponent (isNegative : Bool) (significand : Nat) (start : Int) (chars : List Char) :
    Except Failure (Number × List Char) :=
  let (down, digits) :=
    match chars with
    | '+' :: rest => (false, rest)
    | '-' :: rest => (true, rest)
    | _ => (false, chars)
  match digits with
  | [] => failAt .endInValue []
  | c :: rest =>
    match Numeral.digitValue? c with
    | none => failBehind .invalidNumber digits
    | some first =>
      match takeExponent rest first with
      | (some e, rest) =>
        floatOfParts isNegative significand (if down then start - e else start + e) rest
      | (none, rest) =>
        if significand ≠ 0 ∧ !down then failAt .numberOutOfRange rest
        else .ok (.float (if isNegative then -0.0 else 0.0), rest.dropWhile isDigit)

def readExponentOrEnd (isNegative : Bool) (significand : Nat) (exponent : Int) :
    List Char → Except Failure (Number × List Char)
  | 'e' :: rest => readExponent isNegative significand exponent rest
  | 'E' :: rest => readExponent isNegative significand exponent rest
  | rest => floatOfParts isNegative significand exponent rest

def readDecimals (isNegative : Bool) (significand : Nat) (start : Int) (chars : List Char) :
    Except Failure (Number × List Char) :=
  if startsWithDigit chars then
    let (value, taken, rest) := takeDigits chars significand 0
    readExponentOrEnd isNegative value (start - taken) (rest.dropWhile isDigit)
  else
    match chars with
    | [] => failBehind .endInValue []
    | _ => failBehind .invalidNumber chars

def integerNumber (isNegative : Bool) (n : Nat) : Number :=
  if !isNegative then .natural n
  else if 0 < n ∧ n ≤ Nat.pow 2 63 then .negative n
  else .float (-(Float.ofNat n))

/-- Reads on behind the integer part, of which `dropped` digits did not fit. -/
def readFraction (isNegative : Bool) (n dropped : Nat) :
    List Char → Except Failure (Number × List Char)
  | '.' :: rest => readDecimals isNegative n dropped rest
  | 'e' :: rest => readExponent isNegative n dropped rest
  | 'E' :: rest => readExponent isNegative n dropped rest
  | rest =>
    if dropped = 0 then .ok (integerNumber isNegative n, rest)
    else floatOfParts isNegative n dropped rest

def readUnsigned (isNegative : Bool) : Reader Number
  | [] => failAt .endInValue []
  | '0' :: rest =>
    if startsWithDigit rest then failBehind .invalidNumber rest
    else readFraction isNegative 0 0 rest
  | c :: rest =>
    if isDigit c then
      let (n, _, rest) := takeDigits (c :: rest) 0 0
      let more := rest.takeWhile isDigit
      readFraction isNegative n more.length (rest.drop more.length)
    else failBehind .invalidNumber (c :: rest)

def readNumber : Reader Number
  | '-' :: rest => readUnsigned true rest
  | chars => readUnsigned false chars

/-- Passes on to the next item of a list; `none` at the closing bracket, which is left there. -/
def nextItem? (isFirst : Bool) (chars : List Char) : Except Failure (Option (List Char)) :=
  match skipSpace chars with
  | [] => failBehind .endInList []
  | ']' :: _ => .ok none
  | ',' :: rest =>
    if isFirst then .ok (some (',' :: rest))
    else
      match skipSpace rest with
      | [] => failBehind .endInValue []
      | ']' :: rest => failBehind .trailingComma (']' :: rest)
      | rest => .ok (some rest)
  | rest => if isFirst then .ok (some rest) else failBehind .expectedListEnd rest

def closeList (chars : List Char) : Except Failure (List Char) :=
  match skipSpace chars with
  | [] => failBehind .endInList []
  | ']' :: rest => .ok rest
  | ',' :: rest =>
    match skipSpace rest with
    | ']' :: rest => failBehind .trailingComma (']' :: rest)
    | rest => failBehind .trailingCharacters rest
  | rest => failBehind .trailingCharacters rest

def nextKey? (isFirst : Bool) (chars : List Char) : Except Failure (Option (List Char)) :=
  match skipSpace chars with
  | [] => failBehind .endInObject []
  | '}' :: _ => .ok none
  | '"' :: rest =>
    if isFirst then .ok (some rest) else failBehind .expectedObjectEnd ('"' :: rest)
  | ',' :: rest =>
    if isFirst then failBehind .keyNotString (',' :: rest)
    else
      match skipSpace rest with
      | [] => failBehind .endInValue []
      | '"' :: rest => .ok (some rest)
      | '}' :: rest => failBehind .trailingComma ('}' :: rest)
      | rest => failBehind .keyNotString rest
  | rest => failBehind (if isFirst then .keyNotString else .expectedObjectEnd) rest

def closeObject (chars : List Char) : Except Failure (List Char) :=
  match skipSpace chars with
  | [] => failBehind .endInObject []
  | '}' :: rest => .ok rest
  | ',' :: rest => failBehind .trailingComma (',' :: rest)
  | rest => failBehind .trailingCharacters rest

def passColon (chars : List Char) : Except Failure (List Char) :=
  match skipSpace chars with
  | [] => failBehind .endInObject []
  | ':' :: rest => .ok rest
  | rest => failBehind .expectedColon rest

/-- The text behind the end of a list or object that could not be used, as far as it is passed. -/
def passed (close : List Char → Except Failure (List Char)) (chars : List Char) : Nat :=
  match close chars with
  | .ok rest => Utf8.size rest
  | .error _ => Utf8.size (skipSpace chars)

def finish (chars : List Char) : Except Failure Unit :=
  match skipSpace chars with
  | [] => .ok ()
  | rest => failBehind .trailingCharacters rest

def readAll {α : Type} (reader : Reader α) (text : String) : Except Error α :=
  let result := do
    let (value, rest) ← reader text.toList
    finish rest
    return value
  result.mapError (Failure.locate text)

end LedgerWallet.Json
