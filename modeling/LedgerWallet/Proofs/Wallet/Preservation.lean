import LedgerWallet.Node.Ledger
import LedgerWallet.Proofs.Store.RoundTrip
import LedgerWallet.Proofs.Wallet.Desk

namespace LedgerWallet

open FileTree Wallet

namespace Desk

variable {node : Node} {desk : Desk} {directory : Path} {location : Location}

theorem perform_elsewhere (node : Node) (desk : Desk) {operation : Operation}
    (h : operation.isPersist = false) :
    (desk.perform node operation).2.files = desk.files ∧
      (desk.perform node operation).2.wallet.accountsPath = desk.wallet.accountsPath ∧
      (desk.perform node operation).2.wallet.isCorrupt = desk.wallet.isCorrupt := by
  cases operation with
  | persist => cases h
  | create name =>
    cases created : desk.wallet.create desk.seeds name with
    | error error =>
      rw [perform, created]
      exact ⟨rfl, rfl, rfl⟩
    | ok made =>
      obtain ⟨account, wallet, seeds⟩ := made
      obtain ⟨-, -, same⟩ := create_ok created
      rw [perform, created]
      exact ⟨rfl, same ▸ rfl, same ▸ rfl⟩
  | select selector =>
    cases selected : desk.wallet.select selector with
    | error error =>
      rw [perform, selected]
      exact ⟨rfl, rfl, rfl⟩
    | ok found =>
      obtain ⟨account, wallet⟩ := found
      obtain ⟨session, -, rfl⟩ := select_ok selected
      rw [perform, selected]
      exact ⟨rfl, rfl, rfl⟩
  | _ => exact ⟨rfl, rfl, rfl⟩

theorem savesBy_elsewhere {operation : Operation} (h : operation.isPersist = false) :
    desk.savesBy node operation = false := by
  rw [savesBy, h, Bool.false_and]

theorem savesBy_persist_of_error
    (h : ∃ error, (desk.wallet.persist desk.files).1 = .error error) :
    desk.savesBy node .persist = false := by
  obtain ⟨error, failed⟩ := h
  simp [savesBy, perform, failed, failure?]

theorem savesBy_persist_of_ok (h : (desk.wallet.persist desk.files).1 = .ok ()) :
    desk.savesBy node .persist = true := by
  simp [savesBy, Operation.isPersist, perform, h, failure?]

/-- Since the files were `before`, nothing was written but the accounts file, and that one only
if it was `saved`. -/
structure OnlySaved (directory : Path) (before : FileTree) (saved : Bool) (after : FileTree) :
    Prop where
  others : ∀ name, Path.IsName name → name ≠ accountsFileName →
    after.fileIn directory name = before.fileIn directory name
  unsaved : saved = false →
    after.fileIn directory accountsFileName = before.fileIn directory accountsFileName
  text : saved = true → ∃ store : Store,
    after.fileIn directory accountsFileName = some (Utf8.encode store.text)

theorem OnlySaved.refl (directory : Path) (files : FileTree) :
    OnlySaved directory files false files :=
  ⟨fun _ _ _ => rfl, fun _ => rfl, fun no => by cases no⟩

theorem OnlySaved.persist (node : Node) {before between : FileTree} {saved : Bool}
    (h : OnlySaved directory before saved between)
    (result : desk.wallet.Saved directory between (desk.wallet.persist desk.files).2.2
      (desk.wallet.persist desk.files).1) :
    OnlySaved directory before (saved || desk.savesBy node .persist)
      (desk.wallet.persist desk.files).2.2 := by
  rcases result with ⟨failed, same⟩ | ⟨done, puts⟩
  · rw [savesBy_persist_of_error failed, Bool.or_false]
    constructor
    · intro name isName ne
      exact (same name isName).trans (h.others name isName ne)
    · intro no
      exact (same _ accountsFileName_isName).trans (h.unsaved no)
    · intro yes
      obtain ⟨store, text⟩ := h.text yes
      exact ⟨store, (same _ accountsFileName_isName).trans text⟩
  · rw [savesBy_persist_of_ok done, Bool.or_true]
    constructor
    · intro name isName ne
      exact ((puts name isName).trans (if_neg ne)).trans (h.others name isName ne)
    · intro no
      cases no
    · intro _
      exact ⟨desk.wallet.store, (puts _ accountsFileName_isName).trans (if_pos rfl)⟩

structure Unmarked (directory : Path) (location : Location) (before : FileTree) (saved : Bool)
    (desk : Desk) : Prop where
  lives : desk.wallet.LivesIn directory
  leads : desk.files.LeadsTo directory location
  unmarked : desk.wallet.isCorrupt = false
  files : OnlySaved directory before saved desk.files

theorem Unmarked.perform {before : FileTree} {saved : Bool}
    (h : Unmarked directory location before saved desk) (operation : Operation) :
    Unmarked directory location before (saved || desk.savesBy node operation)
      (desk.perform node operation).2 := by
  cases kind : operation.isPersist with
  | false =>
    obtain ⟨files, path, mark⟩ := perform_elsewhere node desk kind
    rw [savesBy_elsewhere kind, Bool.or_false]
    exact ⟨path.trans h.lives, files ▸ h.leads, mark.trans h.unmarked, files ▸ h.files⟩
  | true =>
    cases operation <;> try cases kind
    obtain ⟨wallet, leads, result⟩ := persist_unmarked h.lives h.leads h.unmarked
    have same : (desk.perform node .persist).2.wallet = desk.wallet := wallet
    exact ⟨same ▸ h.lives, leads, same ▸ h.unmarked, h.files.persist node result⟩

theorem Unmarked.run (node : Node) {before : FileTree} {saved : Bool}
    (operations : List Operation) (h : Unmarked directory location before saved desk) :
    Unmarked directory location before (saved || desk.saves node operations)
      (desk.run node operations) := by
  induction operations generalizing desk saved with
  | nil =>
    rw [saves, Bool.or_false]
    exact h
  | cons operation operations ih =>
    rw [saves, ← Bool.or_assoc]
    exact ih (h.perform operation)

theorem run_marked (node : Node) {content : ByteString} (operations : List Operation)
    (lives : desk.wallet.LivesIn directory) (leads : desk.files.LeadsTo directory location)
    (marked : desk.wallet.isCorrupt = true)
    (stands : desk.files.fileIn directory accountsFileName = some content) :
    ((desk.run node operations).wallet.isCorrupt = true ∧
        (desk.run node operations).files.LeadsTo directory location ∧
        desk.files.SameFiles (desk.run node operations).files directory ∧
        desk.saves node operations = false) ∨
      ∃ between, desk.files.Moves between directory accountsFileName corruptFileName content ∧
        Unmarked directory location between (desk.saves node operations)
          (desk.run node operations) := by
  induction operations generalizing desk with
  | nil => exact Or.inl ⟨marked, leads, fun _ _ => rfl, rfl⟩
  | cons operation operations ih =>
    rw [run, saves]
    cases kind : operation.isPersist with
    | false =>
      obtain ⟨files, path, mark⟩ := perform_elsewhere node desk kind
      have rest := ih (path.trans lives) (files ▸ leads) (mark.trans marked) (files ▸ stands)
      rw [files] at rest
      rw [savesBy_elsewhere kind, Bool.false_or]
      exact rest
    | true =>
      cases operation <;> try cases kind
      rcases persist_marked lives leads marked stands with
        ⟨failed, wallet, leads', same⟩ | ⟨wallet, leads', between, moves, result⟩
      · -- The rename failed, so the mark stands and a later save may still set the file aside.
        have sameWallet : (desk.perform node .persist).2.wallet = desk.wallet := wallet
        have same : desk.files.SameFiles (desk.perform node .persist).2.files directory := same
        have rest := @ih (desk.perform node .persist).2 (sameWallet ▸ lives) leads'
          (sameWallet ▸ marked) ((same _ accountsFileName_isName).trans stands)
        rw [savesBy_persist_of_error failed, Bool.false_or]
        refine rest.imp (fun ⟨mark, leads'', same', unsaved⟩ => ?_) fun ⟨between, moves, run⟩ => ?_
        · exact ⟨mark, leads'', fun name isName => (same' name isName).trans (same name isName),
            unsaved⟩
        · refine ⟨between, fun name isName => (moves name isName).trans ?_, run⟩
          rw [same name isName]
      · right
        refine ⟨between, moves, ?_⟩
        have same : (desk.perform node .persist).2.wallet =
            { desk.wallet with isCorrupt := false } := wallet
        have saved := (OnlySaved.refl directory between).persist node result
        rw [Bool.false_or] at saved
        exact Unmarked.run node operations ⟨same ▸ lives, leads', same ▸ rfl, saved⟩

end Desk

theorem openIn_mark {files : FileTree} {directory : Path} {patience : Nat} {content : ByteString}
    {error : StoreError} (stands : files.read (directory.join accountsFileName) = .ok content)
    (reported : (Wallet.openIn files directory patience).2 = some error) :
    (Wallet.openIn files directory patience).1.isCorrupt = (Utf8.decode? content).isSome := by
  have mark : (Wallet.openIn files directory patience).1.isCorrupt =
      (Wallet.openIn files directory patience).2.any isCorruption := rfl
  have loaded : (Wallet.openIn files directory patience).2 =
      (Store.loadOrEmpty files (directory.join accountsFileName)).2 := rfl
  rw [mark, reported]
  rw [loaded, Store.loadOrEmpty] at reported
  cases text : Utf8.decode? content with
  | none =>
    rw [Store.load_of_notText stands text] at reported
    cases reported
    rfl
  | some text' =>
    rw [Store.load_of_text stands text] at reported
    cases parsed : Store.ofText text' with
    | ok store =>
      rw [parsed] at reported
      cases reported
    | error defect =>
      rw [parsed] at reported
      cases reported
      rfl

/-- A file that could not be loaded is still there after a session, in its place or aside, exactly
if it is a text or nothing was saved or the same bytes were aside before. -/
theorem unloadable_file_survives_iff (files : FileTree) (directory : Path) (patience : Nat)
    (content : ByteString) (error : StoreError) (node : Node) (seeds : Seeds) (calls : List Call)
    (operations : List Operation)
    (stands : files.read (directory.join accountsFileName) = .ok content)
    (reported : (Wallet.openIn files directory patience).2 = some error) :
    let wallet := (Wallet.openIn files directory patience).1
    let desk : Desk := ⟨wallet, files, seeds, calls⟩
    let after := (desk.run node operations).files
    (after.read wallet.accountsPath = .ok content ∨ after.read wallet.corruptPath = .ok content) ↔
      ((Utf8.decode? content).isSome ∨ desk.saves node operations = false ∨
        files.read wallet.corruptPath = .ok content) := by
  intro wallet desk after
  have lives : wallet.LivesIn directory := openIn_livesIn files directory patience
  have there := fileIn_eq_some_iff.2 stands
  obtain ⟨location, leads⟩ := leadsTo_of_fileIn accountsFileName_isName there
  have mark : desk.wallet.isCorrupt = (Utf8.decode? content).isSome := openIn_mark stands reported
  rw [lives.corruptPath, show wallet.accountsPath = directory.join accountsFileName from lives]
  simp only [← fileIn_eq_some_iff]
  cases text : Utf8.decode? content with
  | some text' =>
    rw [text] at mark
    simp only [Option.isSome_some, true_or, iff_true]
    rcases Desk.run_marked node operations lives leads mark there with
      ⟨-, -, same, -⟩ | ⟨between, moves, saved⟩
    · exact Or.inl ((same _ accountsFileName_isName).trans there)
    · right
      have aside := saved.files.others corruptFileName corruptFileName_isName
        accountsFileName_ne.symm
      exact aside.trans ((moves _ corruptFileName_isName).trans (if_pos rfl))
  | none =>
    rw [text] at mark
    have start : Desk.Unmarked directory location files false desk :=
      ⟨lives, leads, mark, .refl directory files⟩
    have kept := (start.run node operations).files
    rw [Bool.false_or] at kept
    have aside := kept.others corruptFileName corruptFileName_isName accountsFileName_ne.symm
    simp only [Option.isSome_none, Bool.false_eq_true, false_or]
    rw [aside]
    cases saved : desk.saves node operations with
    | false =>
      rw [saved] at kept
      simp only [true_or, iff_true]
      exact Or.inl ((kept.unsaved rfl).trans there)
    | true =>
      rw [saved] at kept
      obtain ⟨store, written⟩ := kept.text rfl
      rw [written]
      simp only [Bool.true_eq_false, false_or, or_iff_right_iff_imp]
      intro same
      rw [← Option.some.inj same, Utf8.decode?_encode] at text
      cases text

/-- The byte 255 is no text, and nothing is left of it after one save. -/
theorem lone_byte_lost :
    let files : FileTree :=
      ⟨[(["data"], .directory), (["data", "accounts.json"], .file [255])], []⟩
    let wallet := (Wallet.openIn files ⟨"data"⟩ 1000).1
    let desk : Desk := ⟨wallet, files, Sample.seeds, []⟩
    let after := (desk.run ((Ledger.plain []).node 1000) [.persist]).files
    files.read ((⟨"data"⟩ : Path).join accountsFileName) = .ok [255] ∧
      (Wallet.openIn files ⟨"data"⟩ 1000).2 = some (.io .notText) ∧
      ¬ (after.read wallet.accountsPath = .ok [255] ∨
        after.read wallet.corruptPath = .ok [255]) := by
  intro files wallet desk after
  have stands : files.read ((⟨"data"⟩ : Path).join accountsFileName) = .ok [255] := by rfl
  have notText : Utf8.decode? [255] = none := by decide
  have reported : (Wallet.openIn files ⟨"data"⟩ 1000).2 = some (.io .notText) := by
    change (Store.loadOrEmpty files ((⟨"data"⟩ : Path).join accountsFileName)).2 = _
    rw [Store.loadOrEmpty, Store.load_of_notText stands notText]
  refine ⟨stands, reported, fun survives => ?_⟩
  rcases (unloadable_file_survives_iff files ⟨"data"⟩ 1000 [255] (.io .notText)
      ((Ledger.plain []).node 1000) Sample.seeds [] [.persist]
      stands reported).1 survives with text | unsaved | aside
  · rw [notText] at text
    cases text
  · have saved : desk.saves ((Ledger.plain []).node 1000) [.persist] = true := by decide +kernel
    rw [saved] at unsaved
    cases unsaved
  · have absent : files.read ((⟨"data"⟩ : Path).join corruptFileName) = .error .notFound := by rfl
    rw [(openIn_livesIn files ⟨"data"⟩ 1000).corruptPath, absent] at aside
    cases aside

end LedgerWallet
