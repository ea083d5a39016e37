import LedgerWallet.Url.Host

namespace LedgerWallet

structure Url where
  scheme : List Char
  /-- The host and a port number that is not the usual one, if the address has an authority. -/
  authority : Option (Url.Host × Option Nat)
  path : List Char
  query : Option (List Char)
  fragment : Option (List Char)
  deriving DecidableEq

namespace Url

def portText : Option Nat → List Char
  | none => []
  | some number => ':' :: Numeral.chars number

def authorityText : Option (Host × Option Nat) → List Char
  | none => []
  | some (host, number) => ['/', '/'] ++ host.text ++ portText number

def markedText (mark : Char) : Option (List Char) → List Char
  | none => []
  | some chars => mark :: chars

/-- Without an authority, no path begins like one. -/
def pathMark (url : Url) : List Char :=
  if url.authority.isNone && ['/', '/'].isPrefixOf url.path then ['/', '.'] else []

def chars (url : Url) : List Char :=
  url.scheme ++ [':'] ++ authorityText url.authority ++ url.pathMark ++ url.path ++
    markedText '?' url.query ++ markedText '#' url.fragment

def text (url : Url) : String := String.ofList url.chars

def usualPort? (scheme : List Char) : Option Nat :=
  match String.ofList scheme with
  | "http" | "ws" => some 80
  | "https" | "wss" => some 443
  | "ftp" => some 21
  | _ => none

def isFile (scheme : List Char) : Bool := String.ofList scheme = "file"

def isSpecial (scheme : List Char) : Bool := (usualPort? scheme).isSome || isFile scheme

def isSchemePart (c : Char) : Bool := c.isAlphanum || c = '+' || c = '-' || c = '.'

def cutScheme? (chars : List Char) : Option (List Char × List Char) :=
  let word := chars.takeWhile isSchemePart
  match word, chars.drop word.length with
  | first :: _, ':' :: rest => if first.isAlpha then some (word.map Char.toLower, rest) else none
  | _, _ => none

def isSlash (isSpecial : Bool) (c : Char) : Bool := c = '/' || (isSpecial && c = '\\')

def plainDots : List Char → List Char
  | '%' :: '2' :: 'e' :: rest => '.' :: plainDots rest
  | '%' :: '2' :: 'E' :: rest => '.' :: plainDots rest
  | c :: rest => c :: plainDots rest
  | [] => []

def isDrive : List Char → Bool
  | [letter, mark] => letter.isAlpha && (mark = ':' || mark = '|')
  | _ => false

def above (segments : List (List Char)) : List (List Char) :=
  if segments.getLast?.any isDrive then segments else segments.dropLast

/-- The normal form of a segment. The first one of a file may be a drive, which has a colon. -/
def segmentForm (isDriveHere : Bool) (segment : List Char) : List Char :=
  if isDriveHere && isDrive segment then segment.take 1 ++ [':']
  else Percent.encode Percent.pathMarks segment

/-- Adds segments to those in front of them. A `.` is left out and `..` takes one away; at the end
both leave an empty segment. -/
def addSegments (isFile : Bool) (front : List (List Char)) : List (List Char) → List (List Char)
  | [] => front
  | segment :: rest =>
    let atEnd := if rest.isEmpty then [[]] else []
    let next :=
      match plainDots segment with
      | ['.'] => front ++ atEnd
      | ['.', '.'] => above front ++ atEnd
      | _ => front ++ [segmentForm (isFile && front.isEmpty) segment]
    addSegments isFile next rest

def pathText (segments : List (List Char)) : List Char :=
  '/' :: List.intercalate ['/'] segments

def pathOf (isSpecial : Bool) (chars : List Char) : List Char :=
  pathText (addSegments false [] (Text.pieces (isSlash isSpecial) chars))

def pathBehind (isSpecial : Bool) (chars : List Char) : List Char :=
  match chars with
  | [] => if isSpecial then ['/'] else []
  | c :: rest => pathOf isSpecial (if isSlash isSpecial c then rest else c :: rest)

def cutUser (chars : List Char) : List Char × Option (List Char) :=
  let hostPart := (chars.reverse.takeWhile (· ≠ '@')).reverse
  if chars.contains '@' then
    (hostPart, some (chars.take (chars.length - hostPart.length - 1)))
  else (hostPart, none)

def cutHost : Bool → List Char → List Char × List Char
  | _, [] => ([], [])
  | isInside, c :: rest =>
    if c = ':' ∧ !isInside then ([], c :: rest)
    else
      let (host, behind) := cutHost (c = '[' || (isInside && c ≠ ']')) rest
      (c :: host, behind)

def readPort (scheme digits : List Char) : Except Fault (Option Nat) :=
  if digits = [] then .ok none
  else
    match number? 10 digits with
    | none => .error .badPort
    | some number =>
      if number < 65536 then .ok (if usualPort? scheme = some number then none else some number)
      else .error .badPort

/-- Reads an authority. Only a scheme that is not special goes without a host, and then without a
port number or a user. A `\` ends the port number; what begins with it is left for the path. -/
def readAuthority (scheme chars : List Char) :
    Except Fault ((Host × Option Nat) × List Char) := do
  let (rest, user) := cutUser chars
  if rest = [] ∧ user = some [] then throw .emptyHost
  let (hostChars, behind) := cutHost false rest
  if isSpecial scheme ∧ hostChars = [] then throw .emptyHost
  let host ← if isSpecial scheme then Host.read hostChars else Host.readOpaque hostChars
  if hostChars = [] ∧ (behind ≠ [] ∨ user.any fun u => u ≠ [] && u ≠ [':']) then throw .emptyHost
  let digits := (behind.drop 1).takeWhile (· ≠ '\\')
  return ((host, ← readPort scheme digits), behind.drop (digits.length + 1))

def readFileHost (chars : List Char) : Except Fault Host :=
  if chars = [] then .ok (.domain [])
  else do
    match ← Host.read chars with
    | .domain name => return .domain (if String.ofList name = "localhost" then [] else name)
    | host => return host

/-- The address of a file. A drive is on no other host, and no empty segment comes first. -/
def fileParts (host : Host) (chars : List Char) : Option (Host × Option Nat) × List Char :=
  let segments := addSegments true [] (Text.pieces (isSlash true) chars)
  let host := if segments.head?.any isDrive then .domain [] else host
  (some (host, none), pathText (segments.dropWhile (· = [])))

def readFileParts (chars : List Char) :
    Except Fault (Option (Host × Option Nat) × List Char) := do
  let name := chars.takeWhile fun c => !isSlash true c
  let behind := chars.drop name.length
  if isDrive name then return fileParts (.domain []) chars
  else
    let host ← readFileHost name
    return fileParts host (if host = .domain [] then behind else behind.drop 1)

def readHierarchy (scheme chars : List Char) :
    Except Fault (Option (Host × Option Nat) × List Char) :=
  let slash := isSlash (isSpecial scheme)
  let split (chars : List Char) := do
    let front := chars.takeWhile fun c => !slash c
    let (authority, behind) ← readAuthority scheme front
    return (some authority, pathBehind (isSpecial scheme) (behind ++ chars.drop front.length))
  if isFile scheme then
    match chars with
    | c :: d :: rest =>
      if slash c && slash d then readFileParts rest
      else .ok (fileParts (.domain []) (if slash c then d :: rest else c :: d :: rest))
    | _ => .ok (fileParts (.domain []) (chars.dropWhile slash))
  else if isSpecial scheme then split (chars.dropWhile slash)
  else
    match chars with
    | '/' :: '/' :: rest => split rest
    | '/' :: rest => .ok (none, pathOf false rest)
    | _ => .ok (none, Percent.encode [] chars)

def behindMark? : List Char → Option (List Char)
  | [] => none
  | _ :: rest => some rest

def isIgnored (c : Char) : Bool := c = '\t' || c = '\n' || c = '\r'

def readChars (chars : List Char) : Except Fault Url := do
  match cutScheme? chars with
  | none => throw .relative
  | some (scheme, rest) =>
    let front := rest.takeWhile fun c => c ≠ '?' && c ≠ '#'
    let (authority, path) ← readHierarchy scheme front
    let query := (rest.drop front.length).takeWhile (· ≠ '#')
    let fragment := rest.drop (front.length + query.length)
    let marks := Percent.queryMarks (isSpecial scheme)
    return ⟨scheme, authority, path, (behindMark? query).map (Percent.encode marks),
      (behindMark? fragment).map (Percent.encode Percent.fragmentMarks)⟩

def read (text : String) : Except Fault Url :=
  let start := text.toList.dropWhile (· ≤ ' ')
  readChars ((start.reverse.dropWhile (· ≤ ' ')).reverse.filter fun c => !isIgnored c)

end Url

end LedgerWallet
