import LedgerWallet.Text.Similarity
import LedgerWallet.Text.Style

namespace LedgerWallet

inductive OptionName where
  | config
  | dataDirectory
  | node
  deriving DecidableEq

namespace OptionName

def all : List OptionName := [config, dataDirectory, node]

def long : OptionName → String
  | config => "config"
  | dataDirectory => "data-dir"
  | node => "node"

def short : OptionName → Char
  | config => 'c'
  | dataDirectory => 'd'
  | node => 'n'

def usage (name : OptionName) : String :=
  "--" ++ name.long ++ " <" ++ name.long ++ ">"

def ofLong? (word : List Char) : Option OptionName :=
  all.find? fun name => name.long.toList = word

def ofShort? (c : Char) : Option OptionName :=
  all.find? fun name => name.short = c

end OptionName

inductive UsageItem where
  | option (name : OptionName)
  | help
  | version
  deriving DecidableEq

def UsageItem.text : UsageItem → String
  | .option name => name.usage
  | .help => "--help"
  | .version => "--version"

def UsageItem.all : List UsageItem :=
  [.option .config, .option .dataDirectory, .help, .option .node, .version]

/-- The options that a command line gave, in order, each with its value if it has one yet. -/
structure GivenOptions where
  given : List OptionName
  values : List (OptionName × String)

namespace GivenOptions

def none : GivenOptions := ⟨[], []⟩

def valuesOf (g : GivenOptions) (name : OptionName) : List String :=
  g.values.filterMap fun entry => if entry.1 = name then some entry.2 else Option.none

def usage (g : GivenOptions) (suggested : Option UsageItem) : String :=
  let isUsed : UsageItem → Bool
    | .option name => g.given.contains name || suggested = some (.option name)
    | item => suggested = some item
  match UsageItem.all.filter isUsed with
  | [] => "USAGE:\n    wallet [OPTIONS]"
  | items => "USAGE:\n    wallet " ++ " ".intercalate (items.map UsageItem.text)

end GivenOptions

inductive Notice where
  | help
  | version
  | unknownArgument (argument : String) (suggested : Option UsageItem) (given : GivenOptions)
  | missingValue (name : OptionName) (given : GivenOptions)
  | repeated (name : OptionName) (given : GivenOptions)

namespace Notice

def helpText : String :=
  "wallet 0.1.0\nLocal account wallet\n\nUSAGE:\n    wallet [OPTIONS]\n\n" ++
  "FLAGS:\n    -h, --help       Prints help information\n" ++
  "    -V, --version    Prints version information\n\n" ++
  "OPTIONS:\n    -c, --config <config>        " ++
  "Path to the configuration file, written with defaults when missing\n" ++
  "    -d, --data-dir <data-dir>    Directory holding the accounts file\n" ++
  "    -n, --node <node>            Node to connect to\n"

def output : Notice → String
  | help => helpText
  | version => "wallet 0.1.0\n"
  | _ => ""

def suggestion : Option UsageItem → String
  | none => ""
  | some item =>
    let name := String.ofList (item.text.toList.drop 2 |>.takeWhile (· ≠ ' '))
    "\n\tDid you mean " ++ Text.Style.green.paint true "--" ++
      Text.Style.green.paint true name ++ "?"

def complaint (what usage : String) : String :=
  "error: " ++ what ++ "\n\n" ++ usage ++ "\n\nFor more information try --help\n"

def error : Notice → String
  | unknownArgument argument suggested given =>
    complaint ("Found argument '" ++ argument ++
      "' which wasn't expected, or isn't valid in this context" ++ suggestion suggested)
      (given.usage suggested)
  | missingValue name given =>
    complaint ("The argument '" ++ name.usage ++ "' requires a value but none was supplied")
      (given.usage none)
  | repeated name given =>
    complaint ("The argument '" ++ name.usage ++
      "' was provided more than once, but cannot be used multiple times") (given.usage none)
  | _ => ""

def isError : Notice → Bool
  | help | version => false
  | _ => true

end Notice

structure Options where
  config : Option String
  dataDirectory : Option String
  node : Option String
  deriving DecidableEq

namespace Options

/-- A command line that is read up to some argument: what it gave so far, the option whose value
should come next, and whether `--` has ended the options. -/
structure Progress where
  given : GivenOptions
  pending : Option OptionName
  isEnded : Bool

def Progress.start : Progress := ⟨.none, none, false⟩

def give (p : Progress) (name : OptionName) (value : Option (List Char)) : Progress :=
  match value with
  | none => { p with given.given := p.given.given ++ [name], pending := some name }
  | some chars =>
    let text := String.ofList (chars.dropWhile (· = '='))
    ⟨⟨p.given.given ++ [name], p.given.values ++ [(name, text)]⟩, none, p.isEnded⟩

def flagNames : List String := ["help", "version"]

def suggest? (word : String) : Option UsageItem :=
  match Text.mostSimilar? word (OptionName.all.map OptionName.long ++ flagNames) with
  | some "help" => some .help
  | some "version" => some .version
  | some long => (OptionName.ofLong? long.toList).map .option
  | none => none

def readLong (p : Progress) (chars : List Char) : Except Notice Progress :=
  let body := chars.dropWhile (· = '-')
  let word := body.takeWhile (· ≠ '=')
  let value := if body.contains '=' then some (body.drop (word.length + 1)) else none
  match OptionName.ofLong? word with
  | some name => .ok (give p name value)
  | none =>
    let text := String.ofList word
    if text = "help" then .error .help
    else if text = "version" then .error .version
    else .error (.unknownArgument ("--" ++ text) (suggest? text) p.given)

def readShort (p : Progress) : List Char → Except Notice Progress
  | [] => .ok p
  | c :: rest =>
    match OptionName.ofShort? c with
    | some name => .ok (give p name (if rest.isEmpty then none else some rest))
    | none =>
      if c = 'h' then .error .help
      else if c = 'V' then .error .version
      else .error (.unknownArgument (String.ofList ['-', c]) none p.given)

def readArgument (p : Progress) (argument : String) : Except Notice Progress :=
  let unknown : Except Notice Progress := .error (.unknownArgument argument none p.given)
  if p.isEnded then unknown
  else
    match argument.toList with
    | ['-', '-'] => .ok { p with isEnded := true }
    | '-' :: '-' :: rest => readLong p rest
    | '-' :: c :: rest => readShort p (c :: rest)
    | _ =>
      match p.pending with
      | some name =>
        .ok { p with given.values := p.given.values ++ [(name, argument)], pending := none }
      | none => unknown

def check (given : GivenOptions) : List OptionName → Except Notice Unit
  | [] => .ok ()
  | name :: names =>
    if given.given.contains name then
      if (given.valuesOf name).isEmpty then .error (.missingValue name given)
      else if 1 < given.given.count name then .error (.repeated name given)
      else check given names
    else check given names

def finish (p : Progress) : Except Notice Options := do
  match p.pending with
  | some name =>
    if (p.given.valuesOf name).isEmpty then throw (.missingValue name p.given)
  | none => pure ()
  check p.given OptionName.all
  let value? (name : OptionName) : Option String := (p.given.valuesOf name).head?
  return ⟨value? .config, value? .dataDirectory, value? .node⟩

def parse (arguments : List String) : Except Notice Options := do
  finish (← arguments.foldlM readArgument Progress.start)

end Options

end LedgerWallet
