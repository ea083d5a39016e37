import LedgerWallet.Proofs.Bytes.Marked
import LedgerWallet.Proofs.Json.Documents
import LedgerWallet.Proofs.Store.RoundTrip

namespace LedgerWallet

namespace StoredAccount

open Json

def told (stored : StoredAccount) : List (String × String) :=
  [("alias", stored.name), ("public_key", stored.publicKey), ("private_key", stored.privateKey)]

def Draft.holds (draft : Draft) (key : String) : Option String :=
  if key = "alias" then draft.name
  else if key = "public_key" then draft.publicKey
  else if key = "private_key" then draft.privateKey
  else none

def Draft.put (key value : String) (draft : Draft) : Draft :=
  if key = "alias" then { draft with name := some value }
  else if key = "public_key" then { draft with publicKey := some value }
  else if key = "private_key" then { draft with privateKey := some value }
  else draft

def IsRecord (chars : List Char) (stored : StoredAccount) : Prop :=
  RecordText StringText stored.told chars

theorem complete_eq_ok_iff (draft : Draft) (stored : StoredAccount) :
    record.complete draft = .ok stored ↔
      ∀ member ∈ stored.told, draft.holds member.1 = some member.2 := by
  obtain ⟨name, publicKey, privateKey⟩ := draft
  have tells : (∀ member ∈ stored.told, Draft.holds ⟨name, publicKey, privateKey⟩ member.1 =
      some member.2) ↔ name = some stored.name ∧ publicKey = some stored.publicKey ∧
        privateKey = some stored.privateKey := by
    simp [told, Draft.holds]
  rw [tells]
  constructor
  · intro h
    obtain ⟨a, isA, h⟩ := bind_ok h
    obtain ⟨b, isB, h⟩ := bind_ok h
    obtain ⟨c, isC, h⟩ := bind_ok h
    cases h
    exact ⟨required_eq_ok_iff.1 isA, required_eq_ok_iff.1 isB, required_eq_ok_iff.1 isC⟩
  · rintro ⟨rfl, rfl, rfl⟩
    rfl

theorem legible_record : record.Legible StringText Draft.put Draft.holds told where
  distinct := by decide
  full := rfl
  keys _ := rfl
  begins _ _ isString := isString.begins
  reads := by
    intro m mem draft
    simp only [record, List.mem_cons, List.not_mem_nil, or_false] at mem
    rcases mem with rfl | rfl | rfl
    all_goals exact ofShape_recognizes (text_recognizes "a string") draft
  blank key := by simp [record, Draft.holds]
  given := by
    intro m mem draft
    simp only [record, List.mem_cons, List.not_mem_nil, or_false] at mem
    rcases mem with rfl | rfl | rfl
    all_goals rfl
  put := by
    intro m mem value draft
    simp only [record, List.mem_cons, List.not_mem_nil, or_false] at mem
    rcases mem with rfl | rfl | rfl
    all_goals
      refine ⟨rfl, fun key differs => ?_⟩
      simp only [Member.ofShape, ne_eq] at differs
      simp [Draft.holds, Draft.put, Member.ofShape, differs]
  complete := complete_eq_ok_iff

theorem IsRecord.begins {chars : List Char} {stored : StoredAccount}
    (h : IsRecord chars stored) : Begins chars := by
  cases h with
  | object isObject _ _ =>
    obtain ⟨body, texts, -, -, rfl⟩ := isObject
    exact ⟨'{', _, rfl, by decide⟩
  | list isList _ =>
    obtain ⟨body, -, rfl⟩ := isList
    exact ⟨'[', _, rfl, by decide⟩

/-- A text gives a key: two digits of either case for each byte, behind `0x` or alone. -/
def GivesKey {n : Nat} (text : String) (key : FixedBytes n) : Prop :=
  ∃ mark digits, (mark = [] ∨ mark = ['0', 'x']) ∧ Hex.Spells digits key.toList ∧
    text.toList = mark ++ digits

theorem decodeKey?_eq_some_iff {n : Nat} {text : String} {key : FixedBytes n} :
    decodeKey? n text = some key ↔ GivesKey text key :=
  Hex.decodeFixed?_dropHexMark_eq_some_iff

theorem decodeKey?_eq_none_iff {n : Nat} {text : String} :
    decodeKey? n text = none ↔ ∀ key : FixedBytes n, ¬GivesKey text key := by
  rw [Option.eq_none_iff_forall_ne_some]
  exact forall_congr' fun key => not_congr decodeKey?_eq_some_iff

structure Gives (stored : StoredAccount) (account : Account) : Prop where
  name : account.name = stored.name
  publicKey : GivesKey stored.publicKey account.publicKey
  privateKey : GivesKey stored.privateKey account.privateKey
  paired : account.Paired

/-- What keeps a record from giving an account. The public key comes before the private key. -/
inductive Fails (stored : StoredAccount) : Defect → Prop
  | publicKey : (∀ key : PublicKey, ¬GivesKey stored.publicKey key) →
      Fails stored (.badPublicKey stored.name)
  | privateKey {publicKey : PublicKey} : GivesKey stored.publicKey publicKey →
      (∀ key : PrivateKey, ¬GivesKey stored.privateKey key) →
      Fails stored (.badPrivateKey stored.name)
  | mismatch {publicKey : PublicKey} {privateKey : PrivateKey} :
      GivesKey stored.publicKey publicKey → GivesKey stored.privateKey privateKey →
      ¬Account.Paired ⟨stored.name, publicKey, privateKey⟩ →
      Fails stored (.keyMismatch ⟨stored.name⟩)

theorem toAccount_of_gives {stored : StoredAccount} {account : Account} (h : stored.Gives account) :
    stored.toAccount = .ok account := by
  rw [toAccount_of_keys (decodeKey?_eq_some_iff.2 h.publicKey)
    (decodeKey?_eq_some_iff.2 h.privateKey), ← h.name, Account.ofKeys_of_paired h.paired]
  rfl

theorem toAccount_of_fails {stored : StoredAccount} {defect : Defect} (h : stored.Fails defect) :
    stored.toAccount = .error defect := by
  cases h with
  | publicKey noKey =>
    unfold toAccount
    rw [decodeKey?_eq_none_iff.2 noKey]
  | privateKey isPublic noKey =>
    unfold toAccount
    rw [decodeKey?_eq_some_iff.2 isPublic]
    dsimp only
    rw [decodeKey?_eq_none_iff.2 noKey]
  | mismatch isPublic isPrivate apart =>
    rw [toAccount_of_keys (decodeKey?_eq_some_iff.2 isPublic) (decodeKey?_eq_some_iff.2 isPrivate),
      Account.ofKeys, if_neg apart]
    rfl

theorem gives_or_fails (stored : StoredAccount) :
    (∃ account, stored.Gives account) ∨ ∃ defect, stored.Fails defect := by
  by_cases isPublic : ∃ key : PublicKey, GivesKey stored.publicKey key
  · obtain ⟨publicKey, isPublic⟩ := isPublic
    by_cases isPrivate : ∃ key : PrivateKey, GivesKey stored.privateKey key
    · obtain ⟨privateKey, isPrivate⟩ := isPrivate
      by_cases paired : Account.Paired ⟨stored.name, publicKey, privateKey⟩
      · exact Or.inl ⟨⟨stored.name, publicKey, privateKey⟩, rfl, isPublic, isPrivate, paired⟩
      · exact Or.inr ⟨_, .mismatch isPublic isPrivate paired⟩
    · exact Or.inr ⟨_, .privateKey isPublic (not_exists.1 isPrivate)⟩
  · exact Or.inr ⟨_, .publicKey (not_exists.1 isPublic)⟩

theorem toAccount_eq_ok_iff {stored : StoredAccount} {account : Account} :
    stored.toAccount = .ok account ↔ stored.Gives account := by
  constructor
  · intro h
    rcases stored.gives_or_fails with ⟨other, gives⟩ | ⟨defect, fails⟩
    · rw [toAccount_of_gives gives] at h
      cases h
      exact gives
    · rw [toAccount_of_fails fails] at h
      cases h
  · exact toAccount_of_gives

/-- What keeps a record from being taken behind records of the taken names. The name comes first. -/
def Offends (taken : List String) (stored : StoredAccount) (defect : Defect) : Prop :=
  stored.name ∈ taken ∧ defect = .duplicateName stored.name ∨
    stored.name ∉ taken ∧ stored.Fails defect

end StoredAccount

namespace Store

open Json StoredAccount

def storedNames (records : List StoredAccount) : List String :=
  records.map StoredAccount.name

theorem accountsOf_eq_ok_iff {taken : List String} {records : List StoredAccount}
    {accounts : List Account} :
    accountsOf taken records = .ok accounts ↔ (storedNames records).Nodup ∧
      (∀ name ∈ storedNames records, name ∉ taken) ∧ List.Forall₂ Gives records accounts := by
  induction records generalizing taken accounts with
  | nil =>
    cases accounts <;> simp [accountsOf, storedNames]
  | cons stored records ih =>
    have names : storedNames (stored :: records) = stored.name :: storedNames records := rfl
    rw [names, List.nodup_cons, List.forall_mem_cons, accountsOf_cons_eq_ok_iff]
    constructor
    · rintro ⟨free, account, others, made, more, rfl⟩
      obtain ⟨distinct, apart, give⟩ := ih.1 more
      refine ⟨⟨fun again => apart _ again List.mem_cons_self, distinct⟩,
        ⟨free, fun name there isTaken => apart name there (List.mem_cons_of_mem _ isTaken)⟩, ?_⟩
      exact .cons (toAccount_eq_ok_iff.1 made) give
    · rintro ⟨⟨new, distinct⟩, ⟨free, apart⟩, give⟩
      cases give with
      | @cons _ account _ others gives give =>
        have more : accountsOf (stored.name :: taken) records = .ok others := by
          refine ih.2 ⟨distinct, fun name there isTaken => ?_, give⟩
          rcases List.mem_cons.1 isTaken with rfl | isTaken
          · exact new there
          · exact apart name there isTaken
        exact ⟨free, account, others, toAccount_eq_ok_iff.2 gives, more, rfl⟩

theorem accountsOf_append {taken : List String} {before : List StoredAccount}
    {accounts : List Account} (h : accountsOf taken before = .ok accounts)
    (behind : List StoredAccount) :
    accountsOf taken (before ++ behind) =
      (accountsOf ((storedNames before).reverse ++ taken) behind).map (accounts ++ ·) := by
  induction before generalizing taken accounts with
  | nil =>
    cases h
    cases others : accountsOf taken behind <;> simp [storedNames, others, Except.map]
  | cons stored before ih =>
    obtain ⟨free, account, others, made, more, rfl⟩ := accountsOf_cons_eq_ok_iff.1 h
    have names : (storedNames (stored :: before)).reverse ++ taken =
        (storedNames before).reverse ++ stored.name :: taken := by simp [storedNames]
    rw [List.cons_append, accountsOf, if_neg free, made, names]
    simp only [bind, Except.bind, ih more]
    cases accountsOf ((storedNames before).reverse ++ stored.name :: taken) behind <;> rfl

theorem accountsOf_of_offends {taken : List String} {stored : StoredAccount} {defect : Defect}
    (h : Offends taken stored defect) (behind : List StoredAccount) :
    accountsOf taken (stored :: behind) = .error defect := by
  rcases h with ⟨isTaken, rfl⟩ | ⟨free, fails⟩
  · exact if_pos isTaken
  · rw [accountsOf, if_neg free, toAccount_of_fails fails]
    rfl

def FirstOffence (records : List StoredAccount) (defect : Defect) : Prop :=
  ∃ before stored behind, records = before ++ stored :: behind ∧ (storedNames before).Nodup ∧
    (∀ other ∈ before, ∃ account, other.Gives account) ∧
      Offends (storedNames before) stored defect

theorem FirstOffence.append {records : List StoredAccount} {defect : Defect}
    (h : FirstOffence records defect) (more : List StoredAccount) :
    FirstOffence (records ++ more) defect := by
  obtain ⟨before, stored, behind, rfl, first⟩ := h
  exact ⟨before, stored, behind ++ more, by simp, first⟩

theorem sound_or_firstOffence (records : List StoredAccount) :
    (storedNames records).Nodup ∧ (∀ stored ∈ records, ∃ account, stored.Gives account) ∨
      ∃ defect, FirstOffence records defect := by
  induction records using List.reverseRecOn with
  | nil => exact Or.inl ⟨List.nodup_nil, by simp⟩
  | append_singleton records stored ih =>
    rcases ih with ⟨distinct, give⟩ | ⟨defect, offence⟩
    · by_cases isTaken : stored.name ∈ storedNames records
      · exact Or.inr ⟨_, records, stored, [], rfl, distinct, give, Or.inl ⟨isTaken, rfl⟩⟩
      · rcases stored.gives_or_fails with gives | ⟨defect, fails⟩
        · refine Or.inl ⟨?_, ?_⟩
          · rw [storedNames, List.map_append, List.map_singleton, List.nodup_append]
            refine ⟨distinct, by simp, fun name there other isNew => ?_⟩
            rw [List.mem_singleton.1 isNew]
            exact fun same => isTaken (same ▸ there)
          · rw [List.forall_mem_append, List.forall_mem_singleton]
            exact ⟨give, gives⟩
        · exact Or.inr ⟨defect, records, stored, [], rfl, distinct, give, Or.inr ⟨isTaken, fails⟩⟩
    · exact Or.inr ⟨defect, offence.append [stored]⟩

theorem exists_accountsOf {records : List StoredAccount} (distinct : (storedNames records).Nodup)
    (give : ∀ stored ∈ records, ∃ account, stored.Gives account) :
    ∃ accounts, accountsOf [] records = .ok accounts := by
  obtain ⟨accounts, all⟩ := exists_forall₂ give
  exact ⟨accounts, accountsOf_eq_ok_iff.2 ⟨distinct, fun _ _ => List.not_mem_nil, all⟩⟩

theorem accountsOf_eq_error_iff {records : List StoredAccount} {defect : Defect} :
    accountsOf [] records = .error defect ↔ FirstOffence records defect := by
  have refused : ∀ defect, FirstOffence records defect → accountsOf [] records = .error defect := by
    rintro defect ⟨before, stored, behind, rfl, distinct, give, offends⟩
    obtain ⟨accounts, all⟩ := exists_accountsOf distinct give
    have offends' : Offends ((storedNames before).reverse ++ []) stored defect := by
      simpa [Offends] using offends
    rw [accountsOf_append all, accountsOf_of_offends offends']
    rfl
  constructor
  · intro h
    rcases sound_or_firstOffence records with ⟨distinct, give⟩ | ⟨other, offence⟩
    · obtain ⟨accounts, all⟩ := exists_accountsOf distinct give
      rw [all] at h
      cases h
    · rw [refused other offence] at h
      cases h
      exact offence
  · exact refused defect

def IsDocument (text : String) (records : List StoredAccount) : Prop :=
  StandsAlone (RecordText (ListOf IsRecord) [("accounts", records)]) text

theorem legible_document :
    document.Legible (ListOf IsRecord)
      (fun key records draft => if key = "accounts" then some records else draft)
      (fun draft key => if key = "accounts" then draft else none)
      (fun records => [("accounts", records)]) where
  distinct := by decide
  full := rfl
  keys _ := rfl
  begins := by
    rintro _ _ ⟨texts, ⟨body, -, rfl⟩, -⟩
    exact ⟨'[', _, rfl, by decide⟩
  reads := by
    intro m mem draft
    cases List.mem_singleton.1 mem
    have items : Recognizes record.shape.read IsRecord := legible_record.recognizes
    exact ofShape_recognizes (list_recognizes items fun _ _ isRecord => isRecord.begins) draft
  blank key := by simp [document]
  given := by
    intro m mem draft
    cases List.mem_singleton.1 mem
    rfl
  put := by
    intro m mem records draft
    cases List.mem_singleton.1 mem
    refine ⟨rfl, fun key differs => ?_⟩
    simp only [Member.ofShape, ne_eq] at differs
    simp [differs]
  complete draft records := by
    have completes : document.complete draft = required "accounts" draft := rfl
    rw [completes, required_eq_ok_iff]
    simp

theorem parse_eq_ok_iff {text : String} {records : List StoredAccount} :
    document.parse text = .ok records ↔ IsDocument text records :=
  legible_document.recognizes.readAll_eq_ok_iff

theorem isDocument_text (store : Store) :
    IsDocument store.text (store.accounts.map StoredAccount.ofAccount) :=
  parse_eq_ok_iff.1 store.parse_text

theorem ofText_of_isDocument {text : String} {records : List StoredAccount}
    (h : IsDocument text records) : ofText text = (accountsOf [] records).map Store.mk := by
  rw [ofText, parse_eq_ok_iff.2 h]
  change (accountsOf [] records >>= _) = _
  cases accountsOf [] records <;> rfl

theorem ofText_of_not_isDocument {text : String} (h : ∀ records, ¬IsDocument text records) :
    ∃ error, ofText text = .error (.malformed error) := by
  cases parsed : document.parse text with
  | ok records => exact absurd (parse_eq_ok_iff.1 parsed) (h records)
  | error error =>
    refine ⟨error, ?_⟩
    rw [ofText, parsed]
    rfl

variable {files : FileTree} {path : Path} {text : String} {records : List StoredAccount}

theorem load_of_document (stands : files.read path = .ok (Utf8.encode text))
    (h : IsDocument text records) :
    load files path = ((accountsOf [] records).map Store.mk).mapError (.corrupt path) := by
  rw [load_of_text stands (Utf8.decode?_encode text), ofText_of_isDocument h]

theorem load_document_eq_ok_iff (stands : files.read path = .ok (Utf8.encode text))
    (h : IsDocument text records) {store : Store} :
    load files path = .ok store ↔
      (storedNames records).Nodup ∧ List.Forall₂ Gives records store.accounts := by
  rw [load_of_document stands h]
  constructor
  · intro loaded
    obtain ⟨accounts, all, rfl⟩ := map_ok (mapError_ok loaded)
    obtain ⟨distinct, -, give⟩ := accountsOf_eq_ok_iff.1 all
    exact ⟨distinct, give⟩
  · rintro ⟨distinct, give⟩
    rw [accountsOf_eq_ok_iff.2 ⟨distinct, fun _ _ => List.not_mem_nil, give⟩]
    rfl

theorem load_document_eq_error_iff (stands : files.read path = .ok (Utf8.encode text))
    (h : IsDocument text records) {error : StoreError} :
    load files path = .error error ↔
      ∃ defect, error = .corrupt path defect ∧ FirstOffence records defect := by
  rw [load_of_document stands h]
  cases all : accountsOf [] records with
  | ok accounts =>
    constructor
    · intro loaded
      cases loaded
    · rintro ⟨defect, -, offence⟩
      rw [accountsOf_eq_error_iff.2 offence] at all
      cases all
  | error defect =>
    constructor
    · intro loaded
      cases loaded
      exact ⟨defect, rfl, accountsOf_eq_error_iff.1 all⟩
    · rintro ⟨other, rfl, offence⟩
      rw [accountsOf_eq_error_iff.2 offence] at all
      cases all
      rfl

/-- A file is read as its records give the accounts, or not at all: from a document whose names are
distinct and whose records all give an account, and from no other text. A missing file holds no
accounts. -/
theorem load_all_or_nothing (files : FileTree) (path : Path) :
    (files.read path = .error .notFound → load files path = .ok empty) ∧
    (∀ error, files.read path = .error error → error ≠ .notFound →
      load files path = .error (.io error)) ∧
    (∀ content, files.read path = .ok content → (∀ text, content ≠ Utf8.encode text) →
      load files path = .error (.io .notText)) ∧
    ∀ text, files.read path = .ok (Utf8.encode text) →
      (∀ records, IsDocument text records →
        (∀ store, load files path = .ok store ↔
          (storedNames records).Nodup ∧ List.Forall₂ Gives records store.accounts) ∧
        ∀ error, load files path = .error error ↔
          ∃ defect, error = .corrupt path defect ∧ FirstOffence records defect) ∧
      ((∀ records, ¬IsDocument text records) →
        ∃ error, load files path = .error (.corrupt path (.malformed error))) := by
  refine ⟨?_, ?_, ?_, ?_⟩
  · intro missing
    simp only [load, missing]
  · intro error unreadable other
    unfold load
    rw [unreadable]
    cases error with
    | notFound => exact absurd rfl other
    | _ => rfl
  · intro content stands notText
    refine load_of_notText stands ?_
    cases decoded : Utf8.decode? content with
    | none => rfl
    | some text => exact absurd (Utf8.encode_of_decode? decoded).symm (notText text)
  · intro text stands
    refine ⟨fun records isDocument => ⟨fun store => ?_, fun error => ?_⟩, fun noDocument => ?_⟩
    · exact load_document_eq_ok_iff stands isDocument
    · exact load_document_eq_error_iff stands isDocument
    · obtain ⟨error, refused⟩ := ofText_of_not_isDocument noDocument
      refine ⟨error, ?_⟩
      rw [load_of_text stands (Utf8.decode?_encode text), refused]
      rfl

/-- No file, an account, and the same account twice. -/
theorem load_of_account_stored_twice :
    let store := empty.add Sample.account
    let doubled := store.add Sample.account
    let saved := store.save .empty ⟨"/accounts.json"⟩
    let savedTwice := doubled.save .empty ⟨"/accounts.json"⟩
    load .empty ⟨"/accounts.json"⟩ = .ok empty ∧ load saved.2 ⟨"/accounts.json"⟩ = .ok store ∧
      load savedTwice.2 ⟨"/accounts.json"⟩ =
        .error (.corrupt ⟨"/accounts.json"⟩ (.duplicateName "first")) := by
  intro store doubled saved savedTwice
  have gives : (ofAccount Sample.account).Gives Sample.account :=
    toAccount_eq_ok_iff.1 (toAccount_ofAccount (Account.generate_paired _ _))
  have missing : FileTree.read .empty ⟨"/accounts.json"⟩ = .error .notFound := by decide +kernel
  have success : saved = (.ok (), saved.2) := by rfl
  have successTwice : savedTwice = (.ok (), savedTwice.2) := by rfl
  refine ⟨(load_all_or_nothing _ _).1 missing, ?_, ?_⟩
  · have taken := ((load_all_or_nothing saved.2 _).2.2.2 store.text
      (read_of_save success)).1 _ (isDocument_text store)
    exact (taken.1 store).2 ⟨by simp [storedNames, store, empty, add], .cons gives .nil⟩
  · have refused := ((load_all_or_nothing savedTwice.2 _).2.2.2 doubled.text
      (read_of_save successTwice)).1 _ (isDocument_text doubled)
    refine (refused.2 _).2 ⟨.duplicateName "first", rfl, [ofAccount Sample.account], ofAccount Sample.account, [],
      rfl, by simp [storedNames], ?_, Or.inl ⟨List.mem_singleton.2 rfl, rfl⟩⟩
    exact List.forall_mem_singleton.2 ⟨_, gives⟩

end Store

end LedgerWallet
