import LedgerWallet.Proofs.Bytes.Hex
import LedgerWallet.Proofs.Files.Changes
import LedgerWallet.Proofs.Json.Written
import LedgerWallet.Proofs.Sample
import LedgerWallet.Store.File

namespace LedgerWallet

namespace Account

theorem generate_paired (seed : Seed) (name : String) : (generate seed name).Paired := by
  have length := seed.length_toList
  have seedPart : (generate seed name).privateKey.seed = seed := by
    apply FixedBytes.ext_toList
    simp only [generate, PrivateKey.seed, FixedBytes.append]
    exact List.take_left' length
  constructor
  · rw [seedPart]
    rfl
  · apply FixedBytes.ext_toList
    simp only [generate, PrivateKey.publicHalf, FixedBytes.append]
    exact List.drop_left' length

theorem ofKeys_of_paired {account : Account} (h : account.Paired) :
    ofKeys account.name account.publicKey account.privateKey = .ok account :=
  if_pos h

theorem paired_of_ofKeys {name : String} {publicKey : PublicKey} {privateKey : PrivateKey}
    {account : Account} (h : ofKeys name publicKey privateKey = .ok account) :
    account.Paired ∧ account.name = name := by
  have made : (if Paired ⟨name, publicKey, privateKey⟩ then .ok ⟨name, publicKey, privateKey⟩
      else .error ⟨name⟩ : Except KeyMismatch Account) = .ok account := h
  split at made
  · rename_i paired
    cases made
    exact ⟨paired, rfl⟩
  · cases made

end Account

namespace StoredAccount

open Json

theorem toJson_readsAs (stored : StoredAccount) (depth : Nat) :
    ReadsAs record.read (indentedChars depth stored.toJson) stored := by
  have string (text : String) : ReadsAs (Shape.text "a string").read
      (indentedChars (depth + 1) (.string text)) text := by
    rw [indentedChars]
    exact text_readsAs "a string" text
  have takes : Takes record (depth + 1) record.blank [("alias", .string stored.name),
      ("public_key", .string stored.publicKey), ("private_key", .string stored.privateKey)]
      ⟨some stored.name, some stored.publicKey, some stored.privateKey⟩ := by
    refine .cons rfl rfl (ofShape_readsAs _ (string stored.name)) ?_
    refine .cons rfl rfl (ofShape_readsAs _ (string stored.publicKey)) ?_
    exact .cons rfl rfl (ofShape_readsAs _ (string stored.privateKey)) (.nil _)
  exact record_readsAs takes rfl

theorem decodeKey?_encode {n : Nat} (key : FixedBytes n) :
    decodeKey? n (Hex.encode key.toList) = some key := by
  rw [decodeKey?, Hex.dropHexMark_encode, Hex.decodeFixed?_encode]

theorem toAccount_of_keys {stored : StoredAccount} {publicKey : PublicKey}
    {privateKey : PrivateKey} (foundPublic : decodeKey? 32 stored.publicKey = some publicKey)
    (foundPrivate : decodeKey? 64 stored.privateKey = some privateKey) :
    stored.toAccount =
      (Account.ofKeys stored.name publicKey privateKey).mapError .keyMismatch := by
  unfold toAccount
  rw [foundPublic]
  dsimp only
  rw [foundPrivate]

theorem toAccount_ofAccount {account : Account} (h : account.Paired) :
    (ofAccount account).toAccount = .ok account := by
  have foundPublic : decodeKey? 32 (ofAccount account).publicKey = some account.publicKey :=
    decodeKey?_encode account.publicKey
  have foundPrivate : decodeKey? 64 (ofAccount account).privateKey = some account.privateKey :=
    decodeKey?_encode account.privateKey
  have made : Account.ofKeys (ofAccount account).name account.publicKey account.privateKey =
      .ok account := Account.ofKeys_of_paired h
  rw [toAccount_of_keys foundPublic foundPrivate, made]
  rfl

theorem paired_of_toAccount {stored : StoredAccount} {account : Account}
    (h : stored.toAccount = .ok account) : account.Paired ∧ account.name = stored.name := by
  unfold toAccount at h
  split at h
  · cases h
  · split at h
    · cases h
    · rename_i publicKey _ _ privateKey _
      exact Account.paired_of_ofKeys (mapError_ok h)

end StoredAccount

namespace Store

open Json

/-- No two accounts have one name, and the keys of each are a pair. -/
structure Sound (store : Store) : Prop where
  distinct : store.names.Nodup
  paired : ∀ account ∈ store.accounts, account.Paired

/-- The stores that loading and creating accounts lead to. -/
inductive Reachable : Store → Prop
  | empty : Reachable empty
  | load {files : FileTree} {path : Path} {store : Store} :
      Store.load files path = .ok store → Reachable store
  | create {store next : Store} {seeds rest : Seeds} {name : String} :
      Reachable store → store.create seeds name = .ok (next, rest) → Reachable next

theorem accountsOf_cons_eq_ok_iff {taken : List String} {first : StoredAccount}
    {stored : List StoredAccount} {accounts : List Account} :
    accountsOf taken (first :: stored) = .ok accounts ↔
      first.name ∉ taken ∧ ∃ account others, first.toAccount = .ok account ∧
        accountsOf (first.name :: taken) stored = .ok others ∧ accounts = account :: others := by
  constructor
  · intro h
    unfold accountsOf at h
    split at h
    · cases h
    · rename_i free
      obtain ⟨account, made, h⟩ := bind_ok h
      obtain ⟨others, more, h⟩ := bind_ok h
      cases h
      exact ⟨free, account, others, made, more, rfl⟩
  · rintro ⟨free, account, others, made, more, rfl⟩
    rw [accountsOf, if_neg free, made, more]
    rfl

theorem accountsOf_sound {taken : List String} {stored : List StoredAccount}
    {accounts : List Account} (h : accountsOf taken stored = .ok accounts) :
    (accounts.map Account.name).Nodup ∧ (∀ account ∈ accounts, account.name ∉ taken) ∧
      ∀ account ∈ accounts, account.Paired := by
  -- The taken names grow along the list: a name is free of those before it, and those behind
  -- it are free of it.
  induction stored generalizing taken accounts with
  | nil =>
    cases h
    simp
  | cons first stored ih =>
    obtain ⟨free, account, others, made, more, rfl⟩ := accountsOf_cons_eq_ok_iff.1 h
    obtain ⟨paired, name⟩ := StoredAccount.paired_of_toAccount made
    obtain ⟨distinct, apart, allPaired⟩ := ih more
    refine ⟨?_, ?_, List.forall_mem_cons.2 ⟨paired, allPaired⟩⟩
    · rw [List.map_cons, List.nodup_cons]
      refine ⟨?_, distinct⟩
      intro member
      obtain ⟨other, inOthers, same⟩ := List.mem_map.1 member
      apply apart other inOthers
      rw [same, name]
      exact List.mem_cons_self
    · refine List.forall_mem_cons.2 ⟨name ▸ free, fun other inOthers isTaken => ?_⟩
      exact apart other inOthers (List.mem_cons_of_mem _ isTaken)

theorem sound_of_ofText {text : String} {store : Store} (h : ofText text = .ok store) :
    store.Sound := by
  obtain ⟨stored, -, h⟩ := bind_ok h
  obtain ⟨accounts, made, h⟩ := bind_ok h
  cases h
  obtain ⟨distinct, -, paired⟩ := accountsOf_sound made
  exact ⟨distinct, paired⟩

theorem sound_empty : empty.Sound := by
  constructor
  · exact List.nodup_nil
  · intro account member
    cases member

theorem sound_of_load {files : FileTree} {path : Path} {store : Store}
    (h : load files path = .ok store) : store.Sound := by
  unfold load at h
  split at h
  · cases h
    exact sound_empty
  · cases h
  · split at h
    · cases h
    · exact sound_of_ofText (mapError_ok h)

theorem positionOf?_isSome_iff {store : Store} {name : String} :
    (store.positionOf? name).isSome ↔ name ∈ store.names := by
  rw [positionOf?, Option.isSome_map, List.findIdx?_isSome, List.any_eq_true, names, List.mem_map]
  simp

theorem create_cases (store : Store) (seeds : Seeds) (name : String) :
    (Text.isAllBlank name = false ∧ name ∉ store.names ∧
        store.create seeds name =
          .ok (store.add (Account.generate seeds.next name), seeds.rest)) ∨
      (Text.isAllBlank name = true ∧ store.create seeds name = .error (.blankName name)) ∨
      (Text.isAllBlank name = false ∧ name ∈ store.names ∧
        store.create seeds name = .error (.duplicateName name)) := by
  unfold create
  cases blank : Text.isAllBlank name with
  | true => exact Or.inr (Or.inl ⟨rfl, rfl⟩)
  | false =>
    by_cases taken : name ∈ store.names
    · exact Or.inr (Or.inr ⟨rfl, taken, if_pos (positionOf?_isSome_iff.2 taken)⟩)
    · exact Or.inl ⟨rfl, taken, if_neg fun some => taken (positionOf?_isSome_iff.1 some)⟩

theorem sound_add {store : Store} {account : Account} (sound : store.Sound)
    (paired : account.Paired) (free : account.name ∉ store.names) : (store.add account).Sound := by
  constructor
  · rw [names, add, List.map_append, List.nodup_append]
    refine ⟨sound.distinct, by simp, ?_⟩
    intro old inStore new isNew
    rw [List.map_singleton, List.mem_singleton] at isNew
    rintro rfl
    rw [isNew] at inStore
    exact free inStore
  · intro other member
    rcases List.mem_append.1 member with inStore | isNew
    · exact sound.paired other inStore
    · rw [List.mem_singleton.1 isNew]
      exact paired

theorem sound_of_shorter {store larger : Store} (sound : larger.Sound)
    (within : store.accounts <+: larger.accounts) : store.Sound := by
  constructor
  · exact sound.distinct.sublist (within.map Account.name).sublist
  · exact fun account member => sound.paired account (within.subset member)

theorem add_of_create {store next : Store} {seeds rest : Seeds} {name : String}
    (h : store.create seeds name = .ok (next, rest)) :
    name ∉ store.names ∧ next = store.add (Account.generate seeds.next name) := by
  rcases store.create_cases seeds name with ⟨-, free, created⟩ | ⟨-, refused⟩ | ⟨-, -, refused⟩
  · rw [created] at h
    cases h
    exact ⟨free, rfl⟩
  · rw [refused] at h
    cases h
  · rw [refused] at h
    cases h

theorem sound_of_create {store next : Store} {seeds rest : Seeds} {name : String}
    (sound : store.Sound) (h : store.create seeds name = .ok (next, rest)) : next.Sound := by
  obtain ⟨free, rfl⟩ := add_of_create h
  exact sound_add sound (Account.generate_paired _ _) free

theorem Reachable.sound {store : Store} (h : store.Reachable) : store.Sound := by
  induction h with
  | empty => exact sound_empty
  | load loaded => exact sound_of_load loaded
  | create _ created ih => exact sound_of_create ih created

theorem readItems_accounts (accounts : List Account) (depth : Nat) :
    ReadItems StoredAccount.record.read depth
      (accounts.map fun account => (StoredAccount.ofAccount account).toJson)
      (accounts.map StoredAccount.ofAccount) := by
  induction accounts with
  | nil => exact .nil
  | cons account accounts ih =>
    have begins : Begins (indentedChars depth (StoredAccount.ofAccount account).toJson) :=
      begins_object depth _ _
    have reads := StoredAccount.toJson_readsAs (StoredAccount.ofAccount account) depth
    exact .cons begins reads ih

theorem parse_text (store : Store) :
    document.parse store.text = .ok (store.accounts.map StoredAccount.ofAccount) := by
  have items := readItems_accounts store.accounts 2
  have list : ReadsAs StoredAccount.record.shape.list.read (indentedChars 1 (.array _)) _ :=
    list_readsAs items
  have takes : Takes document 1 document.blank [("accounts", .array (store.accounts.map
      fun account => (StoredAccount.ofAccount account).toJson))]
      (some (store.accounts.map StoredAccount.ofAccount)) :=
    .cons rfl rfl (ofShape_readsAs _ list) (.nil _)
  have reads := record_readsAs takes rfl
  apply readAll_of_readsAs
  rw [text, toJson, indented, String.toList_ofList]
  exact reads

theorem accountsOf_ofAccount {taken : List String} {accounts : List Account}
    (distinct : (accounts.map Account.name).Nodup)
    (apart : ∀ account ∈ accounts, account.name ∉ taken)
    (paired : ∀ account ∈ accounts, account.Paired) :
    accountsOf taken (accounts.map StoredAccount.ofAccount) = .ok accounts := by
  induction accounts generalizing taken with
  | nil => rfl
  | cons account accounts ih =>
    rw [List.map_cons, List.nodup_cons] at distinct
    have free : (StoredAccount.ofAccount account).name ∉ taken :=
      apart account List.mem_cons_self
    have made := StoredAccount.toAccount_ofAccount (paired account List.mem_cons_self)
    have others : accountsOf ((StoredAccount.ofAccount account).name :: taken)
        (accounts.map StoredAccount.ofAccount) = .ok accounts := by
      apply ih distinct.2
      · intro other member isTaken
        rcases List.mem_cons.1 isTaken with same | isTaken
        · apply distinct.1
          rw [show account.name = other.name from same.symm]
          exact List.mem_map_of_mem member
        · exact apart other (List.mem_cons_of_mem _ member) isTaken
      · exact fun other member => paired other (List.mem_cons_of_mem _ member)
    exact accountsOf_cons_eq_ok_iff.2 ⟨free, account, accounts, made, others, rfl⟩

theorem Sound.ofText_text {store : Store} (sound : store.Sound) :
    ofText store.text = .ok store := by
  have accounts : accountsOf [] (store.accounts.map StoredAccount.ofAccount) =
      .ok store.accounts :=
    accountsOf_ofAccount sound.distinct (fun _ _ => List.not_mem_nil) sound.paired
  rw [ofText, parse_text]
  change (accountsOf [] _ >>= _) = _
  rw [accounts]
  rfl

theorem save_eq (store : Store) (files : FileTree) (path : Path) : store.save files path =
    ((files.replace path (Utf8.encode store.text)).1.mapError .io,
      (files.replace path (Utf8.encode store.text)).2) := by
  unfold save
  rcases files.replace path (Utf8.encode store.text) with ⟨result, after⟩
  cases result <;> rfl

theorem read_of_save {store : Store} {files after : FileTree} {path : Path}
    (saved : store.save files path = (.ok (), after)) :
    after.read path = .ok (Utf8.encode store.text) := by
  rw [save_eq, Prod.mk.injEq] at saved
  obtain ⟨done, rfl⟩ := saved
  exact FileTree.read_of_replace (mapError_ok done)

theorem save_cases (store : Store) (files : FileTree) (path : Path) :
    ∃ after, (store.save files path = (.ok (), after) ∧
        after.read path = .ok (Utf8.encode store.text)) ∨
      ∃ error, store.save files path = (.error (.io error), after) ∧
        files.AddsDirectories after := by
  have same := store.save_eq files path
  cases result : (files.replace path (Utf8.encode store.text)).1 with
  | ok done =>
    rw [result] at same
    exact ⟨_, Or.inl ⟨same, read_of_save same⟩⟩
  | error error =>
    rw [result] at same
    exact ⟨_, Or.inr ⟨error, same, FileTree.replace_error_adds result⟩⟩

theorem read_of_load {store : Store} {files : FileTree} {path : Path}
    (h : load files path = .ok store) :
    store = empty ∨ ∃ content, files.read path = .ok content := by
  unfold load at h
  split at h
  · cases h
    exact Or.inl rfl
  · cases h
  · rename_i content stands
    exact Or.inr ⟨content, stands⟩

theorem load_of_same_read {files files' : FileTree} {path : Path}
    (h : files'.read path = files.read path) : load files' path = load files path := by
  rw [load, load, h]

theorem load_of_notText {files : FileTree} {path : Path} {content : ByteString}
    (stands : files.read path = .ok content) (notText : Utf8.decode? content = none) :
    load files path = .error (.io .notText) := by
  simp only [load, stands, notText]

theorem load_of_text {files : FileTree} {path : Path} {content : ByteString} {text : String}
    (stands : files.read path = .ok content) (isText : Utf8.decode? content = some text) :
    load files path = (ofText text).mapError (.corrupt path) := by
  simp only [load, stands, isText]

theorem load_of_read {store : Store} (sound : store.Sound) {files : FileTree} {path : Path}
    (read : files.read path = .ok (Utf8.encode store.text)) : load files path = .ok store := by
  rw [load_of_text read (Utf8.decode?_encode store.text), sound.ofText_text]
  rfl

/-- Loading undoes saving, and saving what was loaded writes the same bytes again. -/
theorem load_of_save {store : Store} (reachable : store.Reachable) {files after : FileTree}
    {path : Path} (saved : store.save files path = (.ok (), after)) :
    load after path = .ok store ∧
      ∃ content, after.read path = .ok content ∧
        ∀ (again : Store) (others next : FileTree) (place : Path),
          load after path = .ok again → again.save others place = (.ok (), next) →
            load next place = .ok store ∧ next.read place = .ok content := by
  have sound := reachable.sound
  have read := read_of_save saved
  have loaded := load_of_read sound read
  refine ⟨loaded, _, read, ?_⟩
  intro again others next place loadedAgain savedAgain
  rw [loaded] at loadedAgain
  cases loadedAgain
  have readAgain := read_of_save savedAgain
  exact ⟨load_of_read sound readAgain, readAgain⟩

/-- A name with a quotation mark, a backslash, a control character and a letter beyond ASCII. -/
theorem load_of_save_escapes :
    let store := empty.add (Account.generate Sample.seeds.next "\"\\\x07é")
    let saved := store.save .empty ⟨"/accounts.json"⟩
    let copied := store.save .empty ⟨"/copy.json"⟩
    saved.1 = .ok () ∧ load saved.2 ⟨"/accounts.json"⟩ = .ok store ∧ copied.1 = .ok () ∧
      load copied.2 ⟨"/copy.json"⟩ = .ok store ∧
      ∃ content, saved.2.read ⟨"/accounts.json"⟩ = .ok content ∧
        copied.2.read ⟨"/copy.json"⟩ = .ok content := by
  intro store saved copied
  have created : empty.create Sample.seeds "\"\\\x07é" = .ok (store, Sample.seeds.rest) := by rfl
  have reachable : store.Reachable := .create .empty created
  have success : saved = (.ok (), saved.2) := by rfl
  have copy : copied = (.ok (), copied.2) := by rfl
  obtain ⟨loaded, content, read, again⟩ := load_of_save reachable success
  obtain ⟨loadedCopy, readCopy⟩ := again store .empty copied.2 ⟨"/copy.json"⟩ loaded copy
  exact ⟨congrArg Prod.fst success, loaded, congrArg Prod.fst copy, loadedCopy, content, read,
    readCopy⟩

end Store

end LedgerWallet
