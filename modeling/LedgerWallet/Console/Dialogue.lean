import LedgerWallet.Console.Commands

namespace LedgerWallet

def Console.followedBy (console : Console) (lines : List ByteString) : Console :=
  { console with input := console.input ++ lines }

/-- A session whose lines come one at a time. While it waits, its console is as it was at the last
prompt, and the input are the lines that were typed since. -/
inductive Dialogue where
  | waiting (prompt : Console)
  | ended (result : Except WalletError Unit) (last : Console)

namespace Dialogue

open Console

variable (setup : Setup)

/-- What has been printed when the command at the prompt comes to the end of the lines and asks for
more; `none` if they are enough for it. -/
def pending? (prompt : Console) : Option String :=
  match prompt.input with
  | [] => some (prompt.output ++ "$ ")
  | line :: rest =>
    match textOfLine line with
    | .error _ => none
    | .ok text =>
      let prompted := { prompt with output := prompt.output ++ "$ " }
      match run (execute setup text) { prompted with input := rest } with
      | (.error .inputClosed, next) => some next.output
      | _ => none

def start (console : Console) : Dialogue :=
  .waiting (run (welcome setup) console).2

/-- Goes on with one more line. Until the lines are enough for the command nothing comes of it, and
then the loop takes them all. -/
def feed : Dialogue → ByteString → Dialogue
  | .waiting prompt, line =>
    let prompt := prompt.followedBy [line]
    if (pending? setup prompt).isSome then .waiting prompt
    else
      match run (loop setup 1) prompt with
      | (.ok false, next) => .waiting next
      | (.ok true, last) => .ended (.ok ()) last
      | (.error error, last) => .ended (.error error) last
  | .ended result last, line => .ended result (last.followedBy [line])

def close : Dialogue → Except WalletError Unit × Console
  | .waiting prompt =>
    let (result, last) := run (loop setup (prompt.input.length + 1)) prompt
    (result.map fun _ => (), last)
  | .ended result last => (result, last)

def shown : Dialogue → String
  | .waiting prompt => (pending? setup prompt).getD prompt.output
  | .ended _ last => last.output

def files : Dialogue → FileTree
  | .waiting prompt => prompt.files
  | .ended _ last => last.files

end Dialogue

end LedgerWallet
