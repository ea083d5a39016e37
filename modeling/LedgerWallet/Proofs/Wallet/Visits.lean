import LedgerWallet.Node.Ledger
import LedgerWallet.Proofs.Wallet.Preservation

namespace LedgerWallet

open FileTree Wallet

/-- A session, and what someone else wrote to the accounts file before it. -/
structure Visit where
  found : Option ByteString
  patience : Nat
  node : Node
  seeds : Seeds
  operations : List Operation

namespace Visit

variable (directory : Path)

def arrive (visit : Visit) (files : FileTree) : FileTree :=
  match visit.found with
  | none => files
  | some content => (files.write (directory.join accountsFileName) content).2

def start (visit : Visit) (files : FileTree) : Desk where
  wallet := (Wallet.openIn (visit.arrive directory files) directory visit.patience).1
  files := visit.arrive directory files
  seeds := visit.seeds
  calls := []

def leave (visit : Visit) (files : FileTree) : Desk :=
  (visit.start directory files).run visit.node visit.operations

/-- The file that the session set aside, which is known from its mark being gone. -/
def setsAside (visit : Visit) (files : FileTree) : Option ByteString :=
  if (visit.start directory files).wallet.isCorrupt ∧
      ¬ (visit.leave directory files).wallet.isCorrupt then
    (visit.arrive directory files).fileIn directory accountsFileName
  else none

def afterAll : FileTree → List Visit → FileTree
  | files, [] => files
  | files, visit :: visits => afterAll (visit.leave directory files).files visits

def lastAside : FileTree → List Visit → Option ByteString
  | _, [] => none
  | files, visit :: visits =>
    (lastAside (visit.leave directory files).files visits).or (visit.setsAside directory files)

variable {directory} {files : FileTree} {location : Location}

theorem arrive_keeps (visit : Visit) (leads : files.LeadsTo directory location) :
    (visit.arrive directory files).LeadsTo directory location ∧
      ∀ name, Path.IsName name → name ≠ accountsFileName →
        (visit.arrive directory files).fileIn directory name = files.fileIn directory name := by
  unfold arrive
  cases visit.found with
  | none => exact ⟨leads, fun _ _ _ => rfl⟩
  | some content => exact write_in_directory leads accountsFileName_isName content

theorem fileIn_of_mark {patience : Nat}
    (marked : (Wallet.openIn files directory patience).1.isCorrupt = true) :
    ∃ content, files.fileIn directory accountsFileName = some content := by
  cases read : files.read (directory.join accountsFileName) with
  | ok content => exact ⟨content, fileIn_eq_some_iff.2 read⟩
  | error error =>
    have unmarked : (Wallet.openIn files directory patience).1.isCorrupt = false := by
      change (Store.loadOrEmpty files (directory.join accountsFileName)).2.any isCorruption = false
      rw [Store.loadOrEmpty, Store.load, read]
      cases error <;> rfl
    rw [unmarked] at marked
    cases marked

theorem leave_keeps (visit : Visit)
    (leads : (visit.arrive directory files).LeadsTo directory location) :
    (visit.leave directory files).files.LeadsTo directory location ∧
      (visit.leave directory files).files.fileIn directory corruptFileName =
        (visit.setsAside directory files).or
          ((visit.arrive directory files).fileIn directory corruptFileName) ∧
      ∀ name, Path.IsName name → name ≠ accountsFileName → name ≠ corruptFileName →
        (visit.leave directory files).files.fileIn directory name =
          (visit.arrive directory files).fileIn directory name := by
  have lives : (visit.start directory files).wallet.LivesIn directory := openIn_livesIn _ _ _
  cases mark : (visit.start directory files).wallet.isCorrupt with
  | false =>
    have nothing : visit.setsAside directory files = none := by simp [setsAside, mark]
    have start : Desk.Unmarked directory location (visit.arrive directory files) false
        (visit.start directory files) := ⟨lives, leads, mark, .refl _ _⟩
    have run := start.run visit.node visit.operations
    rw [nothing, Option.none_or]
    exact ⟨run.leads, run.files.others _ corruptFileName_isName accountsFileName_ne.symm,
      fun name isName ne _ => run.files.others name isName ne⟩
  | true =>
    obtain ⟨content, stands⟩ := fileIn_of_mark mark
    rcases Desk.run_marked visit.node visit.operations lives leads mark stands with
      ⟨still, leads', same, -⟩ | ⟨between, moves, run⟩
    · have still : (visit.leave directory files).wallet.isCorrupt = true := still
      have nothing : visit.setsAside directory files = none := by simp [setsAside, still]
      rw [nothing, Option.none_or]
      exact ⟨leads', same _ corruptFileName_isName, fun name isName _ _ => same name isName⟩
    · have cleared : (visit.leave directory files).wallet.isCorrupt = false := run.unmarked
      have aside : visit.setsAside directory files = some content := by
        simp [setsAside, mark, cleared, stands]
      refine ⟨run.leads, ?_, ?_⟩
      · rw [aside, Option.some_or]
        exact (run.files.others _ corruptFileName_isName accountsFileName_ne.symm).trans
          ((moves _ corruptFileName_isName).trans (if_pos rfl))
      · intro name isName ne neAside
        exact (run.files.others name isName ne).trans
          ((moves name isName).trans ((if_neg neAside).trans (if_neg ne)))

theorem afterAll_keeps (visits : List Visit) (leads : files.LeadsTo directory location) :
    (afterAll directory files visits).fileIn directory corruptFileName =
        (lastAside directory files visits).or (files.fileIn directory corruptFileName) ∧
      ∀ name, Path.IsName name → name ≠ accountsFileName → name ≠ corruptFileName →
        (afterAll directory files visits).fileIn directory name = files.fileIn directory name := by
  induction visits generalizing files with
  | nil => exact ⟨rfl, fun _ _ _ _ => rfl⟩
  | cons visit visits ih =>
    obtain ⟨arrived, found⟩ := visit.arrive_keeps leads
    obtain ⟨left, aside, others⟩ := visit.leave_keeps arrived
    obtain ⟨aside', others'⟩ := ih left
    constructor
    · rw [afterAll, aside', aside, lastAside, Option.or_assoc,
        found _ corruptFileName_isName accountsFileName_ne.symm]
    · intro name isName ne neAside
      rw [afterAll, others' name isName ne neAside, others name isName ne neAside,
        found name isName ne]

theorem setsAside_of_saves (visit : Visit) {content : ByteString}
    (leads : (visit.arrive directory files).LeadsTo directory location)
    (stands : (visit.arrive directory files).fileIn directory accountsFileName = some content)
    (mark : (visit.start directory files).wallet.isCorrupt = true)
    (saved : (visit.start directory files).saves visit.node visit.operations = true) :
    visit.setsAside directory files = some content := by
  have lives : (visit.start directory files).wallet.LivesIn directory := openIn_livesIn _ _ _
  rcases Desk.run_marked visit.node visit.operations lives leads mark stands with
    ⟨-, -, -, unsaved⟩ | ⟨between, -, run⟩
  · rw [saved] at unsaved
    cases unsaved
  · have cleared : (visit.leave directory files).wallet.isCorrupt = false := run.unmarked
    simp [setsAside, mark, cleared, stands]

/-- A file that a session could not understand and then saved over is found in the directory after
later sessions exactly if it is the last one set aside, or stands in the accounts file, or had a
copy under another name. -/
theorem set_aside_survives_iff (directory : Path) (files : FileTree) (visit : Visit)
    (later : List Visit) (content : ByteString)
    (stands : (visit.arrive directory files).read (directory.join accountsFileName) = .ok content)
    (reported : ∃ path defect,
      (Wallet.openIn (visit.arrive directory files) directory visit.patience).2 =
        some (.corrupt path defect))
    (saved : (visit.start directory files).saves visit.node visit.operations = true) :
    let left := (visit.leave directory files).files
    let after := afterAll directory left later
    (∃ name, Path.IsName name ∧ after.read (directory.join name) = .ok content) ↔
      (lastAside directory left later).getD content = content ∨
        after.read (directory.join accountsFileName) = .ok content ∨
        ∃ name, Path.IsName name ∧ name ≠ accountsFileName ∧ name ≠ corruptFileName ∧
          (visit.arrive directory files).read (directory.join name) = .ok content := by
  intro left after
  have there := fileIn_eq_some_iff.2 stands
  obtain ⟨location, arrived⟩ := leadsTo_of_fileIn accountsFileName_isName there
  have mark : (visit.start directory files).wallet.isCorrupt = true := by
    change (Wallet.openIn (visit.arrive directory files) directory visit.patience).2.any
      isCorruption = true
    obtain ⟨path, defect, error⟩ := reported
    rw [error]
    rfl
  obtain ⟨leads, aside, others⟩ := visit.leave_keeps arrived
  obtain ⟨aside', others'⟩ := afterAll_keeps later leads
  have last : after.fileIn directory corruptFileName =
      some ((lastAside directory left later).getD content) := by
    rw [aside', aside, setsAside_of_saves visit arrived there mark saved]
    cases lastAside directory left later <;> rfl
  simp only [← fileIn_eq_some_iff]
  constructor
  · rintro ⟨name, isName, found⟩
    by_cases isAccounts : name = accountsFileName
    · exact Or.inr (Or.inl (isAccounts ▸ found))
    · by_cases isAside : name = corruptFileName
      · rw [isAside, last] at found
        exact Or.inl (Option.some.inj found)
      · refine Or.inr (Or.inr ⟨name, isName, isAccounts, isAside, ?_⟩)
        rw [← others name isName isAccounts isAside, ← others' name isName isAccounts isAside]
        exact found
  · rintro (same | found | ⟨name, isName, isAccounts, isAside, found⟩)
    · exact ⟨corruptFileName, corruptFileName_isName, last.trans (congrArg some same)⟩
    · exact ⟨accountsFileName, accountsFileName_isName, found⟩
    · refine ⟨name, isName, ?_⟩
      rw [others' name isName isAccounts isAside, others name isName isAccounts isAside]
      exact found

theorem corrupt_of_isCorruption {error : Option StoreError}
    (h : error.any isCorruption = true) : ∃ path defect, error = some (.corrupt path defect) := by
  cases error with
  | none => cases h
  | some error =>
    cases error with
    | corrupt path defect => exact ⟨path, defect, rfl⟩
    | _ => cases h

/-- After two sessions that set aside different files nothing is left of the first one. -/
theorem earlier_file_lost :
    let visit (found : String) : Visit :=
      ⟨some (Utf8.encode found), 1000, (Ledger.plain []).node 1000, Sample.seeds, [.persist]⟩
    let files : FileTree := ⟨[(["data"], .directory)], []⟩
    let arrived := (visit "one").arrive ⟨"data"⟩ files
    let after := afterAll ⟨"data"⟩ ((visit "one").leave ⟨"data"⟩ files).files [visit "two"]
    arrived.read ((⟨"data"⟩ : Path).join accountsFileName) = .ok (Utf8.encode "one") ∧
      (∃ path defect, (Wallet.openIn arrived ⟨"data"⟩ 1000).2 = some (.corrupt path defect)) ∧
      ((visit "one").start ⟨"data"⟩ files).saves (visit "one").node [.persist] = true ∧
      ¬ ∃ name, Path.IsName name ∧
        after.read ((⟨"data"⟩ : Path).join name) = .ok (Utf8.encode "one") := by
  intro visit files arrived after
  have entries : arrived =
      ⟨[(["data"], .directory), (["data", "accounts.json"], .file (Utf8.encode "one"))], []⟩ := by
    decide +kernel
  have leads : arrived.LeadsTo ⟨"data"⟩ ["data"] := by
    rw [entries]
    exact ⟨rfl, rfl⟩
  have stands : arrived.fileIn ⟨"data"⟩ accountsFileName = some (Utf8.encode "one") := by
    decide +kernel
  have marked : (Wallet.openIn arrived ⟨"data"⟩ 1000).2.any isCorruption = true := by
    decide +kernel
  have saved : ((visit "one").start ⟨"data"⟩ files).saves (visit "one").node [.persist] =
      true := by
    decide +kernel
  have stands := fileIn_eq_some_iff.1 stands
  have reported := corrupt_of_isCorruption marked
  refine ⟨stands, reported, saved, fun survives => ?_⟩
  rcases (set_aside_survives_iff ⟨"data"⟩ files (visit "one") [visit "two"] _
      stands reported saved).1 survives with last | current | ⟨name, isName, ne, -, found⟩
  · revert last
    decide +kernel
  · revert current
    rw [← fileIn_eq_some_iff]
    decide +kernel
  · have place := ((fileIn_iff_lookup? leads isName).1 (fileIn_eq_some_iff.2 found)).2
    rw [entries] at place
    have same : "accounts.json" = name := by simpa [lookup?, isAround] using place
    exact ne same.symm

end Visit

end LedgerWallet
