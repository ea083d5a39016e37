import LedgerWallet.Files.Tree
import LedgerWallet.Json.Record
import LedgerWallet.Wallet.Error

namespace LedgerWallet

structure Config where
  node : String
  dataDirectory : Path
  gasPrice : Amount
  gasLimit : Amount
  timeoutSeconds : UInt64
  deriving DecidableEq

structure Home where
  directory : Option String
  dataDirectory : Option String

namespace Home

/-- The set directory for data, if its path is absolute, and else the customary one in the user's
directory. -/
def dataPath (home : Home) : Option Path :=
  let customary := home.directory.map fun directory => Path.join ⟨directory⟩ ".local/share"
  match home.dataDirectory with
  | some directory => if (Path.mk directory).isAbsolute then some ⟨directory⟩ else customary
  | none => customary

end Home

namespace Config

def default (home : Home) : Config :=
  ⟨"http://localhost:9092", (home.dataPath.getD ⟨"."⟩).join "cli-wallet", 1, 100, 10⟩

structure Draft where
  node : Option String
  dataDirectory : Option String
  gasPrice : Option UInt64
  gasLimit : Option UInt64
  timeoutSeconds : Option UInt64

def record (fallback : Config) : Json.Record Draft Config where
  kind := "WalletConfig"
  members := [
    .ofShape "node" (.text "a string") Draft.node fun v d => { d with node := some v },
    .ofShape "data_dir" (.text "path string") Draft.dataDirectory
      fun v d => { d with dataDirectory := some v },
    .ofShape "gas_price" .word Draft.gasPrice fun v d => { d with gasPrice := some v },
    .ofShape "gas_limit" .word Draft.gasLimit fun v d => { d with gasLimit := some v },
    .ofShape "request_timeout_secs" .word Draft.timeoutSeconds
      fun v d => { d with timeoutSeconds := some v }]
  blank := ⟨none, none, none, none, none⟩
  mayBeShort := true
  complete draft := .ok {
    node := draft.node.getD fallback.node
    dataDirectory := (draft.dataDirectory.map Path.mk).getD fallback.dataDirectory
    gasPrice := draft.gasPrice.getD fallback.gasPrice
    gasLimit := draft.gasLimit.getD fallback.gasLimit
    timeoutSeconds := draft.timeoutSeconds.getD fallback.timeoutSeconds }

def toJson (config : Config) : Json :=
  let number (word : UInt64) : Json := .number (.natural word.toNat)
  .object [("node", .string config.node), ("data_dir", .string config.dataDirectory.text),
    ("gas_price", number config.gasPrice), ("gas_limit", number config.gasLimit),
    ("request_timeout_secs", number config.timeoutSeconds)]

def load (fallback : Config) (files : FileTree) (path : Path) : Except WalletError Config :=
  match files.find path with
  | .error error => .error (.configNotOpened path error)
  | .ok .directory => .error (.file .isDirectory)
  | .ok (.file content) =>
    match Utf8.decode? content with
    | none => .error (.file .notText)
    | some text => ((record fallback).parse text).mapError (.configMalformed path)

def save (config : Config) (files : FileTree) (path : Path) :
    Except WalletError Unit × FileTree :=
  match files.createParent path with
  | (.error error, files) => (.error (.file error), files)
  | (.ok (), files) =>
    match files.write path (Utf8.encode config.toJson.indented) with
    | (.ok (), files) => (.ok (), files)
    | (.error error, files) => (.error (.file error), files)

def loadOrInit (fallback : Config) (files : FileTree) (path : Path) :
    Except WalletError Config × FileTree :=
  if files.contains path then (load fallback files path, files)
  else
    match fallback.save files path with
    | (.ok (), files) => (.ok fallback, files)
    | (.error error, files) => (.error error, files)

def patience (config : Config) : Nat := 1000 * config.timeoutSeconds.toNat

end Config

end LedgerWallet
