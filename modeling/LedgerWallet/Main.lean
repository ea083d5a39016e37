import LedgerWallet.Console.Dialogue
import LedgerWallet.Program.Run

namespace LedgerWallet

def Seeds.ofSecret (secret : ByteString) : Seeds :=
  ⟨fun n => sha256 (secret ++ ByteString.bigEndian 8 n), 0⟩

def pathText (location : Location) : String :=
  match location with
  | [] => "."
  | first :: rest =>
    if first = FileTree.root then "/" ++ "/".intercalate rest else "/".intercalate location

def takeOver (files : FileTree) (location : Location) : List String → IO FileTree
  | [] => return files
  | name :: names => do
    match files.step location name with
    | .error _ => return files
    | .ok next =>
      if files.lookup? next = some .directory then takeOver files next names
      else
        try
          let content ← IO.FS.readBinFile (pathText next)
          return files.insert next (.file content.data.toList)
        catch
          | .noFileOrDirectory .. => return files
          | _ => takeOver (files.insert next .directory) next names

def takeOverAll (paths : List Path) : IO FileTree :=
  paths.foldlM (fun files path => takeOver files (FileTree.start path) path.steps) FileTree.empty

def bringOut (before after : FileTree) : IO Unit := do
  for (location, entry) in after.entries do
    if before.lookup? location ≠ some entry then
      match entry with
      | .directory => IO.FS.createDirAll (pathText location)
      | .file content =>
        let beside := pathText location ++ ".new"
        IO.FS.writeBinFile beside ⟨content.toArray⟩
        IO.FS.rename beside (pathText location)
  for (location, _) in before.entries do
    if (after.lookup? location).isNone then IO.FS.removeFile (pathText location)

def printNew (shown text : String) : IO Unit := do
  let output ← IO.getStdout
  output.putStr (String.ofList (text.toList.drop shown.length))
  output.flush

def readLine? : IO (Option ByteString) := do
  let input ← IO.getStdin
  let rec more (line : ByteString) : Nat → IO ByteString
    | 0 => return line
    | count + 1 => do
      match (← input.read 1).data.toList with
      | [] => return line
      | byte :: _ => if byte = 10 then return line ++ [byte] else more (line ++ [byte]) count
  let line ← more [] (Nat.pow 2 32)
  return if line.isEmpty then none else some line

partial def serve (setup : Setup) (dialogue : Dialogue) (shown : String) :
    IO (Except WalletError Unit) := do
  match dialogue with
  | .ended result _ => return result
  | .waiting _ =>
    let next :=
      match ← readLine? with
      | some line => dialogue.feed setup line
      | none =>
        let (result, last) := dialogue.close setup
        .ended result last
    bringOut dialogue.files next.files
    let text := next.shown setup
    printNew shown text
    serve setup next text

end LedgerWallet

open LedgerWallet

def main (arguments : List String) : IO UInt32 := do
  let isColored := (← (← IO.getStdout).isTty) && (← IO.getEnv "NO_COLOR").isNone
  let home : Home := ⟨(← IO.getEnv "HOME").filter (· ≠ ""), ← IO.getEnv "XDG_DATA_HOME"⟩
  let around : Program.Surroundings := ⟨home, Rpc.unreachable, isColored⟩
  let known ← takeOverAll (Program.touched around arguments FileTree.empty)
  let files ← takeOverAll (Program.touched around arguments known)
  let seeds := Seeds.ofSecret (← IO.getRandomBytes 32).data.toList
  match Program.prepare around arguments files seeds with
  | .error outcome =>
    bringOut files outcome.files
    printNew "" outcome.output
    (← IO.getStderr).putStr outcome.errors
    return outcome.exitCode.toUInt32
  | .ok (setup, console) =>
    bringOut files console.files
    let dialogue := Dialogue.start setup console
    let text := dialogue.shown setup
    printNew "" text
    match ← serve setup dialogue text with
    | .ok () => return 0
    | .error error =>
      (← IO.getStderr).putStr ("Error: " ++ error.message ++ "\n")
      return 1
