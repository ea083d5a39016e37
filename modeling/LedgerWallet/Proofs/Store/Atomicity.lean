import LedgerWallet.Proofs.Files.Replacing
import LedgerWallet.Proofs.Store.RoundTrip
import LedgerWallet.Wallet.Basic

namespace LedgerWallet

namespace FileTree

variable {before after : FileTree} {origin location : Location} {names : List String}

theorem content?_eq_some_iff {tree : FileTree} {content : ByteString} :
    tree.content? location = some content ↔ tree.lookup? location = some (.file content) := by
  unfold content?
  cases tree.lookup? location with
  | none => simp
  | some entry => cases entry <;> simp

theorem KeptOrMade.content? (h : KeptOrMade before after origin names location) :
    after.content? location = before.content? location := by
  unfold FileTree.content?
  rcases h with same | ⟨absent, made, -⟩
  · rw [same]
  · rw [absent, made]

/-- Nothing but directories on the way to the path was made, so every file is as it was. -/
structure Spares (before after : FileTree) (path : Path) : Prop where
  files : ∀ location, after.content? location = before.content? location
  entries : MakesWay before after (start path) path.parentSteps

/-- The file at the path is the only one that is new or changed. -/
structure PutsOnly (before after : FileTree) (path : Path) (content : ByteString)
    (target : Location) : Prop where
  named : after.resolve path = .ok target
  stands : after.content? target = some content
  noDirectory : before.lookup? target ≠ some .directory
  files : ∀ location, location ≠ target → after.content? location = before.content? location
  entries : ∀ location, location ≠ target →
    KeptOrMade before after (start path) path.parentSteps location

theorem replace_spares_or_puts (tree : FileTree) (path : Path) (content : ByteString) :
    (∃ error, (tree.replace path content).1 = .error error ∧
        tree.Spares (tree.replace path content).2 path) ∨
      (tree.replace path content).1 = .ok () ∧
        ∃ target, tree.PutsOnly (tree.replace path content).2 path content target := by
  obtain ⟨made, way, ⟨error, failed, same⟩ | ⟨done, placed⟩⟩ := replace_cases tree path content
  · have kept := way.of_lookup? same
    exact Or.inl ⟨error, failed, fun location => (kept location).content?, kept⟩
  · have kept : ∀ place, made.lookup? place = some .directory →
        (tree.replace path content).2.lookup? place = some .directory := fun _ => placed.directory
    obtain ⟨target, found, notDirectory, -, same⟩ := placed
    have elsewhere : ∀ location, location ≠ target →
        (tree.replace path content).2.lookup? location = made.lookup? location := by
      intro location ne
      rw [same]
      exact if_neg ne
    have entries : ∀ location, location ≠ target →
        KeptOrMade tree (tree.replace path content).2 (start path) path.parentSteps location := by
      intro location ne
      rcases way location with stays | ⟨absent, new, passed, within, walked⟩
      · exact Or.inl ((elsewhere location ne).trans stays)
      · exact Or.inr ⟨absent, (elsewhere location ne).trans new, passed, within,
          walk_of_directories kept walked⟩
    refine Or.inr ⟨done, target, resolve_of_directories kept found, content?_eq_some_iff.2 ?_, ?_,
      fun location ne => (entries location ne).content?, entries⟩
    · rw [same]
      exact if_pos rfl
    · exact fun there => notDirectory (way.adds.directory there)

end FileTree

namespace Wallet

variable {wallet : Wallet} {files : FileTree} {content : ByteString}

theorem read_of_moveAside (stands : files.read wallet.accountsPath = .ok content) :
    (wallet.moveAside files).2.read wallet.accountsPath = .ok content ∨
      (wallet.moveAside files).2.read wallet.corruptPath = .ok content := by
  obtain ⟨source, resolved, file, -⟩ := FileTree.read_eq_ok_iff.1 stands
  unfold moveAside
  split
  · rw [resolved]
    dsimp only
    cases moved : files.rename source wallet.corruptPath with
    | mk result between =>
      cases result with
      | error error =>
        have same := FileTree.rename_error (congrArg Prod.fst moved)
        rw [moved] at same
        have adds : files.AddsDirectories between := fun location => Or.inl (by rw [same])
        exact Or.inl (adds.read stands)
      | ok done => exact Or.inr (FileTree.read_of_rename file moved)
  · exact Or.inl stands

theorem read_of_persist_error {error : WalletError}
    (failed : (wallet.persist files).1 = .error error)
    (stands : files.read wallet.accountsPath = .ok content) :
    (wallet.persist files).2.2.read wallet.accountsPath = .ok content ∨
      (wallet.persist files).2.2.read wallet.corruptPath = .ok content := by
  have found := wallet.read_of_moveAside stands
  unfold persist at failed ⊢
  cases moved : wallet.moveAside files with
  | mk result between =>
    rw [moved] at failed found
    cases result with
    | error error => exact found
    | ok done =>
      dsimp only at failed ⊢
      obtain ⟨after, ⟨saved, -⟩ | ⟨error, unsaved, adds⟩⟩ :=
        wallet.store.save_cases between wallet.accountsPath
      · rw [saved] at failed
        cases failed
      · rw [unsaved]
        exact found.imp adds.read adds.read

end Wallet

/-- A save that fails leaves every file as it was and adds none; one that succeeds puts the store
at its path and changes no other file. It does succeed where a file could be written, unless the
device fails. A wallet that fails to save keeps the accounts file in its place or aside. -/
theorem save_atomic (store : Store) (files : FileTree) (path : Path) :
    ((∃ error, (store.save files path).1 = .error error ∧
        files.Spares (store.save files path).2 path) ∨
      (store.save files path).1 = .ok () ∧ ∃ target,
        files.PutsOnly (store.save files path).2 path (Utf8.encode store.text) target) ∧
      (files.faults = [] → ∀ target, files.place path = .ok target →
        (store.save files path).1 = .ok ()) ∧
      ∀ (wallet : Wallet) (error : WalletError) (content : ByteString),
        (wallet.persist files).1 = .error error →
        files.read wallet.accountsPath = .ok content →
        (wallet.persist files).2.2.read wallet.accountsPath = .ok content ∨
          (wallet.persist files).2.2.read wallet.corruptPath = .ok content := by
  simp only [store.save_eq]
  refine ⟨?_, fun works target there => ?_, fun wallet error content =>
    Wallet.read_of_persist_error⟩
  · rcases files.replace_spares_or_puts path (Utf8.encode store.text) with
      ⟨error, failed, spares⟩ | ⟨done, puts⟩
    · exact Or.inl ⟨.io error, by rw [failed]; rfl, spares⟩
    · exact Or.inr ⟨by rw [done]; rfl, puts⟩
  · rw [FileTree.replace_of_place works there]
    rfl

/-- A device that is full after one byte: a save leaves the file that stands there, which a write
in its place does not. -/
example :
    let files : FileTree := ⟨[(["accounts.json"], .file [1, 2])],
      [none, some ⟨.device "No space left on device", 1⟩]⟩
    let path : Path := ⟨"accounts.json"⟩
    let saved := Store.empty.save files path
    let written := files.write path (Utf8.encode Store.empty.text)
    saved.1.isOk = false ∧ saved.2.entries = files.entries ∧
      written.1.isOk = false ∧ written.2.content? ["accounts.json"] = some [123] := by
  decide +kernel

end LedgerWallet
