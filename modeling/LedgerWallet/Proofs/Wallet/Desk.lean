import LedgerWallet.Proofs.Files.Directory
import LedgerWallet.Proofs.Store.RoundTrip
import LedgerWallet.Wallet.Basic

namespace LedgerWallet

/-- A wallet with the files and the seeds at hand, and the questions that the node was asked. -/
structure Desk where
  wallet : Wallet
  files : FileTree
  seeds : Seeds
  calls : List Call

inductive Operation where
  | create (name : String)
  | select (selector : Selector)
  | persist
  | sign (message : ByteString)
  | accountState (address : Address)
  | currentAccountState
  | transactionState (id : TransactionId)
  | submit (transfer : Transfer)

def Operation.isPersist : Operation → Bool
  | .persist => true
  | _ => false

def failure? {α : Type} : Except WalletError α → Option WalletError
  | .ok _ => none
  | .error error => some error

namespace Desk

def perform (node : Node) (desk : Desk) : Operation → Option WalletError × Desk
  | .create name =>
    match desk.wallet.create desk.seeds name with
    | .ok (_, wallet, seeds) => (none, { desk with wallet, seeds })
    | .error error => (some error, desk)
  | .select selector =>
    match desk.wallet.select selector with
    | .ok (_, wallet) => (none, { desk with wallet })
    | .error error => (some error, desk)
  | .persist =>
    let (result, wallet, files) := desk.wallet.persist desk.files
    (failure? result, { desk with wallet, files })
  | .sign message => (failure? (desk.wallet.sign message), desk)
  | .accountState address =>
    let (result, calls) := desk.wallet.accountState node desk.calls address
    (failure? result, { desk with calls })
  | .currentAccountState =>
    let (result, calls) := desk.wallet.currentAccountState node desk.calls
    (failure? result, { desk with calls })
  | .transactionState id =>
    let (result, calls) := desk.wallet.transactionState node desk.calls id
    (failure? result, { desk with calls })
  | .submit transfer =>
    let (result, calls) := desk.wallet.submit node desk.calls transfer
    (failure? result, { desk with calls })

def run (node : Node) : Desk → List Operation → Desk
  | desk, [] => desk
  | desk, operation :: operations => run node (desk.perform node operation).2 operations

def savesBy (node : Node) (desk : Desk) (operation : Operation) : Bool :=
  operation.isPersist && (desk.perform node operation).1.isNone

def saves (node : Node) : Desk → List Operation → Bool
  | _, [] => false
  | desk, operation :: operations =>
    desk.savesBy node operation || saves node (desk.perform node operation).2 operations

end Desk

namespace Wallet

def corruptFileName : String := accountsFileName ++ corruptSuffix

theorem accountsFileName_isName : Path.IsName accountsFileName := by
  constructor <;> decide

theorem corruptFileName_isName : Path.IsName corruptFileName := by
  constructor <;> decide

theorem accountsFileName_ne : accountsFileName ≠ corruptFileName := by decide

theorem create_ok {wallet next : Wallet} {account : Account} {seeds rest : Seeds} {name : String}
    (h : wallet.create seeds name = .ok (account, next, rest)) :
    wallet.store.create seeds name = .ok (next.store, rest) ∧
      next.store.get next.store.size = .ok account ∧
      next = { wallet with
        store := next.store
        session := wallet.session.accountCreated next.store.size } := by
  obtain ⟨⟨store, remaining⟩, created, h⟩ := bind_ok h
  obtain ⟨last, found, h⟩ := bind_ok h
  cases h
  exact ⟨mapError_ok created, mapError_ok found, rfl⟩

theorem select_ok {wallet next : Wallet} {account : Account} {selector : Selector}
    (h : wallet.select selector = .ok (account, next)) :
    ∃ session, Session.select wallet.store selector = .ok (account, session) ∧
      next = { wallet with session } := by
  obtain ⟨⟨found, session⟩, selected, h⟩ := bind_ok h
  cases h
  exact ⟨session, mapError_ok selected, rfl⟩

variable {wallet : Wallet} {files : FileTree} {directory : Path} {location : Location}

def LivesIn (wallet : Wallet) (directory : Path) : Prop :=
  wallet.accountsPath = directory.join accountsFileName

theorem LivesIn.corruptPath (lives : wallet.LivesIn directory) :
    wallet.corruptPath = directory.join corruptFileName := by
  unfold Wallet.corruptPath
  rw [lives]
  unfold Path.join
  split <;> simp [corruptFileName, String.append_assoc]

theorem openIn_livesIn (files : FileTree) (directory : Path) (patience : Nat) :
    (openIn files directory patience).1.LivesIn directory := rfl

/-- What the attempt to save leaves: the same files after a failure, and otherwise the text of the
store in the accounts file. -/
def Saved (wallet : Wallet) (directory : Path) (before after : FileTree)
    (result : Except WalletError Unit) : Prop :=
  ((∃ error, result = .error error) ∧ before.SameFiles after directory) ∨
    (result = .ok () ∧
      before.Puts after directory accountsFileName (Utf8.encode wallet.store.text))

theorem save_saved (lives : wallet.LivesIn directory) (leads : files.LeadsTo directory location) :
    (wallet.store.save files wallet.accountsPath).2.LeadsTo directory location ∧
      wallet.Saved directory files (wallet.store.save files wallet.accountsPath).2
        ((wallet.store.save files wallet.accountsPath).1.mapError .store) := by
  rw [Store.save_eq, lives]
  dsimp only
  obtain ⟨leads', ⟨error, failed, same⟩ | ⟨done, puts⟩⟩ :=
    FileTree.replace_in_directory leads accountsFileName_isName (Utf8.encode wallet.store.text)
  · exact ⟨leads', Or.inl ⟨⟨_, by rw [failed]; rfl⟩, same⟩⟩
  · exact ⟨leads', Or.inr ⟨by rw [done]; rfl, puts⟩⟩

theorem persist_unmarked (lives : wallet.LivesIn directory)
    (leads : files.LeadsTo directory location) (unmarked : wallet.isCorrupt = false) :
    (wallet.persist files).2.1 = wallet ∧
      (wallet.persist files).2.2.LeadsTo directory location ∧
      wallet.Saved directory files (wallet.persist files).2.2 (wallet.persist files).1 := by
  have stays : wallet.moveAside files = (.ok (), files) := by simp [moveAside, unmarked]
  have same : { wallet with isCorrupt := false } = wallet := by rw [← unmarked]
  simp only [persist, stays]
  exact ⟨same, save_saved lives leads⟩

theorem persist_marked {content : ByteString} (lives : wallet.LivesIn directory)
    (leads : files.LeadsTo directory location) (marked : wallet.isCorrupt = true)
    (stands : files.fileIn directory accountsFileName = some content) :
    ((∃ error, (wallet.persist files).1 = .error error) ∧ (wallet.persist files).2.1 = wallet ∧
        (wallet.persist files).2.2.LeadsTo directory location ∧
        files.SameFiles (wallet.persist files).2.2 directory) ∨
      ((wallet.persist files).2.1 = { wallet with isCorrupt := false } ∧
        (wallet.persist files).2.2.LeadsTo directory location ∧
        ∃ between, files.Moves between directory accountsFileName corruptFileName content ∧
          wallet.Saved directory between (wallet.persist files).2.2 (wallet.persist files).1) := by
  have there : files.contains wallet.accountsPath = true := by
    rw [lives]
    exact FileTree.contains_of_read (FileTree.fileIn_eq_some_iff.1 stands)
  obtain ⟨source, resolved, -⟩ := FileTree.read_eq_ok_iff.1 (FileTree.fileIn_eq_some_iff.1 stands)
  have aside : wallet.moveAside files = files.rename source (directory.join corruptFileName) := by
    simp only [moveAside, marked, there, Bool.and_self, ↓reduceIte, lives.corruptPath]
    rw [lives, resolved]
  unfold persist
  rw [aside]
  cases moved : files.rename source (directory.join corruptFileName) with
  | mk result between =>
    cases result with
    | error error =>
      have same := FileTree.rename_error (congrArg Prod.fst moved)
      rw [moved] at same
      have leads' : between.LeadsTo directory location :=
        leads.of_directories fun _ there => by rw [same, there]
      refine Or.inl ⟨⟨_, rfl⟩, rfl, leads', fun other isName => ?_⟩
      exact FileTree.fileIn_congr leads leads' isName fun _ => by rw [same]
    | ok done =>
      obtain ⟨leads', moves⟩ := FileTree.rename_in_directory leads accountsFileName_isName
        corruptFileName_isName stands resolved moved
      have written := save_saved lives leads'
      dsimp only
      revert written
      generalize wallet.store.save between wallet.accountsPath = step
      obtain ⟨result, after⟩ := step
      rintro ⟨leads'', saved⟩
      exact Or.inr ⟨rfl, leads'', between, moves, saved⟩

end Wallet

end LedgerWallet
