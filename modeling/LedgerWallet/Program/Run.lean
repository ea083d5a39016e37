import LedgerWallet.Config
import LedgerWallet.Console.Commands
import LedgerWallet.Node.Rpc
import LedgerWallet.Program.Options

namespace LedgerWallet.Program

structure Surroundings where
  home : Home
  transport : Rpc.Transport
  isColored : Bool

structure Outcome where
  exitCode : Nat
  output : String
  errors : String
  files : FileTree

def failure (output : String) (error : WalletError) (files : FileTree) : Outcome :=
  ⟨1, output, "Error: " ++ error.message ++ "\n", files⟩

def loadWarning (isColored : Bool) : Option StoreError → String
  | none => ""
  | some error =>
    Text.Style.red.paint isColored "Cannot load accounts:" ++ " " ++ error.message ++ "\n" ++
      Text.Style.yellow.paint isColored ("Starting with no accounts. " ++
        "The file is moved aside when a new account is saved.") ++ "\n"

def configure (options : Options) (config : Config) : Config :=
  { config with
    node := options.node.getD config.node
    dataDirectory := (options.dataDirectory.map Path.mk).getD config.dataDirectory }

/-- The files that the program may read or write, as far as these files tell. -/
def touched (around : Surroundings) (arguments : List String) (files : FileTree) : List Path :=
  match Options.parse arguments with
  | .error _ => []
  | .ok options =>
    let standard := Config.default around.home
    let config :=
      match options.config with
      | some path => (Config.load standard files ⟨path⟩).toOption.getD standard
      | none => standard
    let (wallet, _) := Wallet.openIn files (configure options config).dataDirectory 0
    (options.config.map Path.mk).toList ++ [wallet.accountsPath, wallet.corruptPath]

def openConsole (around : Surroundings) (config : Config) (files : FileTree) (seeds : Seeds) :
    Setup × Console :=
  let (wallet, error) := Wallet.openIn files config.dataDirectory config.patience
  let setup : Setup :=
    ⟨Rpc.node around.transport config.node, config.node, config.gasPrice, config.gasLimit,
      around.isColored⟩
  (setup, ⟨wallet, files, seeds, [], [], loadWarning around.isColored error⟩)

def prepare (around : Surroundings) (arguments : List String) (files : FileTree) (seeds : Seeds) :
    Except Outcome (Setup × Console) :=
  match Options.parse arguments with
  | .error notice => .error ⟨if notice.isError then 1 else 0, notice.output, notice.error, files⟩
  | .ok options =>
    let standard := Config.default around.home
    let (loaded, files) :=
      match options.config with
      | some path => Config.loadOrInit standard files ⟨path⟩
      | none => (.ok standard, files)
    match loaded with
    | .error error => .error (failure "" error files)
    | .ok config => .ok (openConsole around (configure options config) files seeds)

def run (around : Surroundings) (arguments : List String) (files : FileTree) (seeds : Seeds)
    (input : ByteString) : Outcome :=
  match prepare around arguments files seeds with
  | .error outcome => outcome
  | .ok (setup, console) =>
    match (Console.session setup).run { console with input := splitLines input } with
    | (.ok (), console) => ⟨0, console.output, "", console.files⟩
    | (.error error, console) => failure console.output error console.files

end LedgerWallet.Program
