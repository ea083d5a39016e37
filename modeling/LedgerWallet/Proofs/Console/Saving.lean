import LedgerWallet.Proofs.Console.Reach
import LedgerWallet.Proofs.Sample

namespace LedgerWallet

def WalletError.isIo : WalletError → Bool
  | .store (.io _) | .file _ => true
  | _ => false

def IoFailure {α : Type} : Except WalletError α → Prop
  | .ok _ => False
  | .error error => error.isIo = true

instance {α : Type} (result : Except WalletError α) : Decidable (IoFailure result) :=
  match result with
  | .ok _ => inferInstanceAs (Decidable False)
  | .error error => inferInstanceAs (Decidable (error.isIo = true))

theorem IoFailure.exists_error {α : Type} {result : Except WalletError α}
    (failed : IoFailure result) : ∃ error, result = .error error := by
  cases result with
  | ok a => exact failed.elim
  | error error => exact ⟨error, rfl⟩

namespace Wallet

variable {wallet : Wallet} {files : FileTree}

theorem openIn_clean {directory : Path} {patience : Nat}
    (clean : (openIn files directory patience).2 = none) :
    Store.load files (directory.join accountsFileName) =
        .ok (openIn files directory patience).1.store ∧
      (openIn files directory patience).1.isCorrupt = false := by
  have error : (openIn files directory patience).2 =
      (Store.loadOrEmpty files (directory.join accountsFileName)).2 := rfl
  have store : (openIn files directory patience).1.store =
      (Store.loadOrEmpty files (directory.join accountsFileName)).1 := rfl
  have mark : (openIn files directory patience).1.isCorrupt =
      (openIn files directory patience).2.any isCorruption := rfl
  rw [mark, store, clean]
  rw [error, Store.loadOrEmpty] at clean
  rw [Store.loadOrEmpty]
  cases loaded : Store.load files (directory.join accountsFileName) with
  | ok store => exact ⟨rfl, rfl⟩
  | error error =>
    rw [loaded] at clean
    cases clean

theorem persist_accountsPath (wallet : Wallet) (files : FileTree) :
    (wallet.persist files).2.1.accountsPath = wallet.accountsPath := by
  unfold persist
  split <;> rfl

theorem persist_read (wallet : Wallet) (files : FileTree) :
    IoFailure (wallet.persist files).1 ∨
      (wallet.persist files).2.2.read wallet.accountsPath =
        .ok (Utf8.encode wallet.store.text) := by
  unfold persist
  obtain ⟨result, moved⟩ := wallet.moveAside files
  cases result with
  | error error => exact Or.inl rfl
  | ok done =>
    obtain ⟨after, ⟨saved, read⟩ | ⟨error, failed, -⟩⟩ :=
      wallet.store.save_cases moved wallet.accountsPath
    · right
      dsimp only
      rw [saved]
      exact read
    · left
      dsimp only
      rw [failed]
      rfl

theorem persist_keeps (unmarked : wallet.isCorrupt = false) (files : FileTree) :
    (wallet.persist files).2.1.isCorrupt = false ∧
      ∀ content, files.read wallet.accountsPath = .ok content →
        (wallet.persist files).2.2.read wallet.accountsPath = .ok content ∨
          (wallet.persist files).2.2.read wallet.accountsPath =
            .ok (Utf8.encode wallet.store.text) := by
  have stays : wallet.moveAside files = (.ok (), files) := by
    rw [moveAside, unmarked]
    rfl
  unfold persist
  rw [stays]
  refine ⟨rfl, fun content stands => ?_⟩
  dsimp only
  obtain ⟨after, ⟨saved, read⟩ | ⟨error, failed, adds⟩⟩ :=
    wallet.store.save_cases files wallet.accountsPath
  · rw [saved]
    exact Or.inr read
  · rw [failed]
    exact Or.inl (adds.read stands)

end Wallet

namespace Console

variable {α β : Type}

/-- Between two states accounts were only added. Files were changed only by saving them, and unless
something `failed` they are in the accounts file. A file that could be loaded is never lost: it
stays as it was until a store with more accounts takes its place. -/
structure Advances (before after : Console) (failed : Prop) : Prop where
  path : after.wallet.accountsPath = before.wallet.accountsPath
  accounts : before.wallet.store.accounts <+: after.wallet.store.accounts
  disk : (after.wallet.store = before.wallet.store ∧ after.files = before.files) ∨
    (before.wallet.store.size < after.wallet.store.size ∧
      (¬ failed → after.files.read after.wallet.accountsPath =
        .ok (Utf8.encode after.wallet.store.text)))
  kept : before.wallet.isCorrupt = false → after.wallet.isCorrupt = false ∧
    ∀ content, before.files.read before.wallet.accountsPath = .ok content →
      after.files.read after.wallet.accountsPath = .ok content ∨
        ∃ store : Store, before.wallet.store.accounts <+: store.accounts ∧
          store.accounts <+: after.wallet.store.accounts ∧
          after.files.read after.wallet.accountsPath = .ok (Utf8.encode store.text)

theorem advances_of_session {before after : Console} {failed : Prop} (session : Session)
    (wallet : after.wallet = { before.wallet with session }) (files : after.files = before.files) :
    Advances before after failed := by
  have path : after.wallet.accountsPath = before.wallet.accountsPath := by rw [wallet]
  have store : after.wallet.store = before.wallet.store := by rw [wallet]
  have mark : after.wallet.isCorrupt = before.wallet.isCorrupt := by rw [wallet]
  refine ⟨path, store ▸ List.prefix_rfl, Or.inl ⟨store, files⟩, fun unmarked => ?_⟩
  rw [path, files]
  exact ⟨mark.trans unmarked, fun content stands => Or.inl stands⟩

theorem Advances.trans {first second third : Console} {failed failed' : Prop}
    (h : Advances first second failed) (h' : Advances second third failed') :
    Advances first third (failed ∨ failed') := by
  refine ⟨h'.path.trans h.path, h.accounts.trans h'.accounts, ?_, fun unmarked => ?_⟩
  · have grew : first.wallet.store.size ≤ second.wallet.store.size := h.accounts.length_le
    rcases h'.disk with ⟨store, files⟩ | ⟨grown, saved⟩
    · rcases h.disk with ⟨store₀, files₀⟩ | ⟨grown, saved⟩
      · exact Or.inl ⟨store.trans store₀, files.trans files₀⟩
      · right
        rw [store, files, h'.path]
        exact ⟨grown, fun fine => saved fun failed => fine (Or.inl failed)⟩
    · right
      exact ⟨Nat.lt_of_le_of_lt grew grown, fun fine => saved fun failed => fine (Or.inr failed)⟩
  · obtain ⟨unmarked, kept⟩ := h.kept unmarked
    obtain ⟨unmarked, kept'⟩ := h'.kept unmarked
    refine ⟨unmarked, fun content stands => ?_⟩
    rcases kept content stands with same | ⟨store, above, below, read⟩
    · rcases kept' content same with same | ⟨store, above, below, read⟩
      · exact Or.inl same
      · exact Or.inr ⟨store, h.accounts.trans above, below, read⟩
    · right
      rcases kept' _ read with same | ⟨store', above', below', read'⟩
      · exact ⟨store, above, below.trans h'.accounts, same⟩
      · exact ⟨store', h.accounts.trans above', below', read'⟩

theorem Advances.mono {before after : Console} {failed failed' : Prop}
    (h : Advances before after failed) (weaker : failed → failed') :
    Advances before after failed' := by
  refine ⟨h.path, h.accounts, ?_, h.kept⟩
  rcases h.disk with same | ⟨grown, saved⟩
  · exact Or.inl same
  · exact Or.inr ⟨grown, fun fine => saved fun failed => fine (weaker failed)⟩

def Saves (action : ConsoleM α) : Prop :=
  ∀ console, Advances console (run action console).2 (IoFailure (run action console).1)

theorem advances_bind {action : ConsoleM α} {rest : α → ConsoleM β} {before console : Console}
    (first : Advances before (run action console).2 (IoFailure (run action console).1))
    (later : ∀ a, Saves (rest a)) :
    Advances before (run (action >>= rest) console).2
      (IoFailure (run (action >>= rest) console).1) := by
  rw [run_bind]
  cases done : run action console with
  | mk result next =>
    rw [done] at first
    cases result with
    | error error => exact first
    | ok a =>
      refine (first.trans (later a next)).mono ?_
      rintro (no | failed)
      · cases no
      · exact failed

theorem saves_selectAccount (selector : Selector) : Saves (selectAccount selector) := by
  intro console
  rw [run_selectAccount]
  cases selected : console.wallet.select selector with
  | error error => exact advances_of_session _ rfl rfl
  | ok found =>
    obtain ⟨account, wallet⟩ := found
    obtain ⟨session, -, rfl⟩ := Wallet.select_ok selected
    exact advances_of_session session rfl rfl

theorem advances_persist {before created : Console} (files : created.files = before.files)
    (path : created.wallet.accountsPath = before.wallet.accountsPath)
    (mark : created.wallet.isCorrupt = before.wallet.isCorrupt)
    (accounts : before.wallet.store.accounts <+: created.wallet.store.accounts)
    (grown : before.wallet.store.size < created.wallet.store.size) :
    Advances before (run persist created).2 (IoFailure (run persist created).1) := by
  have store := Wallet.persist_store created.wallet created.files
  have samePath := Wallet.persist_accountsPath created.wallet created.files
  rw [run_persist]
  refine ⟨samePath.trans path, ?_, Or.inr ⟨?_, fun fine => ?_⟩, fun unmarked => ?_⟩ <;>
    dsimp only <;> rw [store]
  · exact accounts
  · exact grown
  · rw [samePath]
    exact (Wallet.persist_read _ _).resolve_left fine
  · obtain ⟨unmarked, kept⟩ := Wallet.persist_keeps (mark.trans unmarked) created.files
    refine ⟨unmarked, fun content stands => ?_⟩
    rw [samePath]
    rw [← files, ← path] at stands
    exact (kept content stands).imp_right fun read => ⟨_, accounts, List.prefix_rfl, read⟩

/-- A creation and the save behind it count as one step: in between the new account is in memory
only. -/
theorem saves_record {rest : Account → ConsoleM α} (name : String)
    (later : ∀ account, Saves (rest account)) :
    Saves (createAccount name >>= fun account => persist >>= fun _ => rest account) := by
  intro console
  rw [run_bind, run_createAccount]
  cases created : console.wallet.create console.seeds name with
  | error error => exact advances_of_session _ rfl rfl
  | ok made =>
    obtain ⟨account, wallet, seeds⟩ := made
    obtain ⟨stored, -, same⟩ := Wallet.create_ok created
    obtain ⟨-, added⟩ := Store.add_of_create stored
    refine advances_bind (advances_persist rfl ?_ ?_ ?_ ?_) fun _ => later account <;> dsimp only
    · rw [same]
    · rw [same]
    · rw [added]
      exact List.prefix_append _ _
    · rw [added]
      simp [Store.size, Store.add]

variable {setup : Setup} {effects : List Effect}

theorem Confined.saves {action : ConsoleM α} (h : Confined setup effects action) :
    Saves action := by
  induction h with
  | pure a => exact fun _ => advances_of_session _ rfl rfl
  | lift result =>
    intro console
    rw [run_lift]
    exact advances_of_session _ rfl rfl
  | write text => exact fun _ => advances_of_session _ rfl rfl
  | current =>
    intro console
    rw [run_attempt, run_currentAccount]
    exact advances_of_session _ rfl rfl
  | look same later ih => exact fun console => ih console console
  | bind first later ih ihLater => exact fun console => advances_bind (ih console) ihLater
  | ask allowed question => exact fun _ => advances_of_session _ rfl rfl
  | record allowed name later ih => exact saves_record name ih
  | select allowed selector => exact saves_selectAccount selector
  | accountState allowed address =>
    intro console
    rw [run_accountState]
    exact advances_of_session _ rfl rfl
  | transactionState allowed id =>
    intro console
    rw [run_transactionState]
    exact advances_of_session _ rfl rfl
  | submit allowed transfer =>
    intro console
    rw [run_submit]
    exact advances_of_session _ rfl rfl

structure Typed where
  line : String
  answers : List ByteString

def enter (setup : Setup) (console : Console) (typed : Typed) : Except WalletError Flow × Console :=
  run (execute setup typed.line) { console with input := typed.answers }

def enterAll (setup : Setup) :
    Console → List Typed → List (Except WalletError Flow) × Console
  | console, [] => ([], console)
  | console, typed :: rest =>
    let (result, next) := console.enter setup typed
    let (results, last) := enterAll setup next rest
    (result :: results, last)

theorem advances_enter (setup : Setup) (console : Console) (typed : Typed) :
    Advances console (console.enter setup typed).2 (IoFailure (console.enter setup typed).1) := by
  have turned : Advances console { console with input := typed.answers } False :=
    advances_of_session _ rfl rfl
  refine (turned.trans ((confined_execute typed.line).saves _)).mono ?_
  rintro (no | failed)
  · cases no
  · exact failed

theorem advances_enterAll (setup : Setup) (console : Console) (typed : List Typed) :
    Advances console (console.enterAll setup typed).2
      (∃ result ∈ (console.enterAll setup typed).1, IoFailure result) := by
  induction typed generalizing console with
  | nil => exact advances_of_session _ rfl rfl
  | cons first rest ih =>
    refine ((advances_enter setup console first).trans (ih _)).mono ?_
    rintro (failed | ⟨result, member, failed⟩)
    · exact ⟨_, List.mem_cons_self, failed⟩
    · exact ⟨result, List.mem_cons_of_mem _ member, failed⟩

theorem sound_enterAll {console : Console} (sound : console.wallet.store.Sound)
    (typed : List Typed) : (console.enterAll setup typed).2.wallet.store.Sound := by
  induction typed generalizing console with
  | nil => exact sound
  | cons first rest ih =>
    have follows : Follows setup.node (execute setup first.line) :=
      (confined_execute first.line).follows
    exact ih (follows.sound sound)

/-- In a wallet that was opened without an error no account is ever lost. Until the first failure of
the file system or the input the accounts file gives the accounts in memory, and a line that creates
no account changes no file. -/
theorem files_follow_accounts (setup : Setup) {files : FileTree} {directory : Path} {patience : Nat}
    (clean : (Wallet.openIn files directory patience).2 = none) (seeds : Seeds)
    (typed : List Typed) :
    let opened : Console := ⟨(Wallet.openIn files directory patience).1, files, seeds, [], [], ""⟩
    let session := opened.enterAll setup typed
    let found := opened.wallet.store
    let store := session.2.wallet.store
    let saved := Store.load session.2.files (directory.join Wallet.accountsFileName)
    found.accounts <+: store.accounts ∧
      (found.isEmpty ∨ ∃ stored, saved = .ok stored ∧ found.accounts <+: stored.accounts) ∧
      ((∀ result ∈ session.1, ¬ IoFailure result) →
        saved = .ok store ∧ (store = found → session.2.files = files)) ∧
      ∀ next : Typed,
        let after := (session.2.enter setup next).2
        after.wallet.store.size ≤ store.size → after.files = session.2.files := by
  intro opened session found store saved
  obtain ⟨loaded, unmarked⟩ := Wallet.openIn_clean clean
  have sound : store.Sound :=
    sound_enterAll (Wallet.sound_openIn files directory patience) typed
  have advances := advances_enterAll setup opened typed
  have path : session.2.wallet.accountsPath = directory.join Wallet.accountsFileName :=
    advances.path
  refine ⟨advances.accounts, ?_, fun fine => ?_, fun next => ?_⟩
  · rcases Store.read_of_load loaded with none | ⟨content, stands⟩
    · exact Or.inl (congrArg Store.isEmpty none)
    · right
      rcases (advances.kept unmarked).2 content stands with same | ⟨stored, above, below, read⟩
      · rw [path] at same
        exact ⟨found, (Store.load_of_same_read (same.trans stands.symm)).trans loaded,
          List.prefix_rfl⟩
      · rw [path] at read
        exact ⟨stored, Store.load_of_read (Store.sound_of_shorter sound below) read, above⟩
  · have noFailure : ¬ ∃ result ∈ session.1, IoFailure result := by
      rintro ⟨result, member, failed⟩
      exact fine result member failed
    rcases advances.disk with ⟨same, files⟩ | ⟨grown, read⟩
    · refine ⟨?_, fun _ => files⟩
      change Store.load session.2.files _ = .ok session.2.wallet.store
      rw [same, files]
      exact loaded
    · refine ⟨?_, fun same => ?_⟩
      · have text := read noFailure
        rw [path] at text
        exact Store.load_of_read sound text
      · exact absurd (congrArg Store.size same) (Nat.ne_of_gt grown)
  · intro after noMore
    rcases (advances_enter setup session.2 next).disk with ⟨-, files⟩ | ⟨grown, -⟩
    · exact files
    · exact absurd noMore (Nat.not_le_of_lt grown)

/-- A new account is saved although the next line fails. -/
theorem first_account_saved :
    let session := (Sample.opened .empty).enterAll Sample.setup
      [⟨"account-new first", []⟩, ⟨"account-sign zz", []⟩]
    (Wallet.openIn .empty ⟨"data"⟩ 1000).2 = none ∧ session.2.wallet.store.names = ["first"] ∧
      Store.load session.2.files ⟨"data/accounts.json"⟩ = .ok session.2.wallet.store := by
  have clean : (Wallet.openIn .empty ⟨"data"⟩ 1000).2 = none :=
    Option.isNone_iff_eq_none.1 (by decide +kernel)
  have path : (Path.mk "data").join Wallet.accountsFileName = ⟨"data/accounts.json"⟩ := by decide
  refine ⟨clean, by decide +kernel, ?_⟩
  rw [← path]
  obtain ⟨-, -, inStep, -⟩ := files_follow_accounts _ clean _ _
  exact (inStep (by decide +kernel)).1

end Console

end LedgerWallet
