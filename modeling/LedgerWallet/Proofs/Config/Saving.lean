import LedgerWallet.Config
import LedgerWallet.Proofs.Bytes.Hex
import LedgerWallet.Proofs.Files.Changes
import LedgerWallet.Proofs.Json.Naturals

namespace LedgerWallet.Config

open Json

variable {config fallback : Config} {files after : FileTree} {path : Path}

theorem parse_indented (config fallback : Config) :
    (record fallback).parse config.toJson.indented = .ok config := by
  have string (expected text : String) : ReadsAs (Shape.text expected).read
      (indentedChars 1 (.string text)) text := by
    rw [indentedChars]
    exact text_readsAs expected text
  have word (word : UInt64) : ReadsAs Shape.word.read
      (indentedChars 1 (.number (.natural word.toNat))) word := by
    rw [indentedChars]
    exact word_readsAs word
  let final : Draft := ⟨some config.node, some config.dataDirectory.text, some config.gasPrice,
    some config.gasLimit, some config.timeoutSeconds⟩
  have takes : Takes (record fallback) 1 (record fallback).blank [("node", .string config.node),
      ("data_dir", .string config.dataDirectory.text),
      ("gas_price", .number (.natural config.gasPrice.toNat)),
      ("gas_limit", .number (.natural config.gasLimit.toNat)),
      ("request_timeout_secs", .number (.natural config.timeoutSeconds.toNat))] final := by
    refine .cons rfl rfl (ofShape_readsAs _ (string "a string" config.node)) ?_
    refine .cons rfl rfl (ofShape_readsAs _ (string "path string" config.dataDirectory.text)) ?_
    refine .cons rfl rfl (ofShape_readsAs _ (word config.gasPrice)) ?_
    refine .cons rfl rfl (ofShape_readsAs _ (word config.gasLimit)) ?_
    exact .cons rfl rfl (ofShape_readsAs _ (word config.timeoutSeconds)) (.nil _)
  have reads := record_readsAs takes rfl
  apply readAll_of_readsAs
  rw [indented, String.toList_ofList]
  exact reads

theorem load_of_read {text : String} (stands : files.read path = .ok (Utf8.encode text)) :
    load fallback files path = ((record fallback).parse text).mapError (.configMalformed path) := by
  simp only [load, FileTree.find_of_read stands, Utf8.decode?_encode]

theorem read_of_save (h : config.save files path = (.ok (), after)) :
    after.read path = .ok (Utf8.encode config.toJson.indented) := by
  unfold save at h
  split at h
  · cases h
  · split at h
    · rename_i written done
      cases h
      exact FileTree.read_of_write done
    · cases h

theorem load_of_saved (stands : after.read path = .ok (Utf8.encode config.toJson.indented))
    (fallback : Config) : load fallback after path = .ok config := by
  rw [load_of_read stands, parse_indented]
  rfl

theorem loadOrInit_cases (h : loadOrInit fallback files path = (.ok config, after)) :
    files.contains path = true ∧ after = files ∧ load fallback files path = .ok config ∨
      files.contains path = false ∧ config = fallback ∧
        after.read path = .ok (Utf8.encode fallback.toJson.indented) := by
  unfold loadOrInit at h
  cases there : files.contains path with
  | true =>
    rw [there] at h
    obtain ⟨loaded, rfl⟩ := Prod.mk.inj h
    exact Or.inl ⟨rfl, rfl, loaded⟩
  | false =>
    rw [there, if_neg (by decide)] at h
    split at h
    · rename_i saved
      cases h
      exact Or.inr ⟨rfl, rfl, read_of_save saved⟩
    · cases h

/-- What is saved is loaded as itself, and what was loaded or set up once is loaded again, while
the files stay as they are. -/
theorem config_files_round_trip (home : Home) (files : FileTree) (path : Path) :
    (∀ config after, config.save files path = (.ok (), after) →
      ∀ fallback, load fallback after path = .ok config) ∧
    ∀ config after, loadOrInit (default home) files path = (.ok config, after) →
      loadOrInit (default home) after path = (.ok config, after) ∧
      (files.contains path = true → after = files) ∧
      (files.contains path = false → config = default home ∧
        ∀ fallback, load fallback after path = .ok (default home)) := by
  constructor
  · intro config after saved fallback
    exact load_of_saved (read_of_save saved) fallback
  · intro config after first
    rcases loadOrInit_cases first with ⟨there, rfl, loaded⟩ | ⟨absent, rfl, stands⟩
    · refine ⟨first, fun _ => rfl, fun absent => ?_⟩
      rw [there] at absent
      cases absent
    · have loaded := load_of_saved stands
      refine ⟨?_, fun there => ?_, fun _ => ⟨rfl, loaded⟩⟩
      · rw [loadOrInit, if_pos (FileTree.contains_of_read stands), loaded]
      · rw [absent] at there
        cases there

/-- A configuration with a quotation mark, a control character, a letter beyond ASCII and the
largest number, in a directory that is not there yet. -/
theorem config_with_escapes_round_trips :
    let home : Home := ⟨"/home/user", none⟩
    let path : Path := ⟨"wallet/config.json"⟩
    let config : Config := ⟨"\"\\\x07é", ⟨"dé"⟩, 18446744073709551615, 0, 1⟩
    ∃ saved first, config.save .empty path = (.ok (), saved) ∧
      load (default home) saved path = .ok config ∧
      loadOrInit (default home) .empty path = (.ok (default home), first) ∧
      loadOrInit (default home) first path = (.ok (default home), first) := by
  obtain ⟨saved, success⟩ : ∃ saved, save ⟨"\"\\\x07é", ⟨"dé"⟩, 18446744073709551615, 0, 1⟩ .empty
      ⟨"wallet/config.json"⟩ = (.ok (), saved) := ⟨_, Prod.ext (by rfl) rfl⟩
  obtain ⟨first, setsUp⟩ : ∃ first, loadOrInit (default ⟨"/home/user", none⟩) .empty
      ⟨"wallet/config.json"⟩ = (.ok (default ⟨"/home/user", none⟩), first) :=
    ⟨_, Prod.ext (by rfl) rfl⟩
  intro home path config
  obtain ⟨kept, again⟩ := config_files_round_trip home .empty path
  exact ⟨saved, first, success, kept config saved success (default home), setsUp,
    (again (default home) first setsUp).1⟩

end LedgerWallet.Config
