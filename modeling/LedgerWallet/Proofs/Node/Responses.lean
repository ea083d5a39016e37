import LedgerWallet.Node.Rpc
import LedgerWallet.Proofs.Bytes.Hex
import LedgerWallet.Proofs.Json.Compact
import LedgerWallet.Proofs.Json.Records

namespace LedgerWallet

namespace AccountState

def wordJson (word : UInt64) : Json := .number (.natural word.toNat)

def told (state : AccountState) : List (String × Json) :=
  [("currentBalance", wordJson state.currentBalance), ("currentNonce", wordJson state.currentNonce),
    ("projectedBalance", wordJson state.projectedBalance),
    ("projectedNonce", wordJson state.projectedNonce)]

def Draft.holds (draft : Draft) (key : String) : Option Json :=
  if key = "currentBalance" then draft.currentBalance.map wordJson
  else if key = "currentNonce" then draft.currentNonce.map wordJson
  else if key = "projectedBalance" then draft.projectedBalance.map wordJson
  else if key = "projectedNonce" then draft.projectedNonce.map wordJson
  else none

theorem complete_eq_ok_iff (draft : Draft) (state : AccountState) :
    record.complete draft = .ok state ↔
      ∀ member ∈ state.told, draft.holds member.1 = some member.2 := by
  obtain ⟨balance, nonce, projected, later⟩ := draft
  have tells : (∀ member ∈ state.told, Draft.holds ⟨balance, nonce, projected, later⟩ member.1 =
      some member.2) ↔ balance = some state.currentBalance ∧ nonce = some state.currentNonce ∧
        projected = some state.projectedBalance ∧ later = some state.projectedNonce := by
    simp [told, Draft.holds, wordJson, Option.map_eq_some_iff, UInt64.toNat_inj]
  rw [tells]
  constructor
  · intro h
    obtain ⟨a, isA, h⟩ := bind_ok h
    obtain ⟨b, isB, h⟩ := bind_ok h
    obtain ⟨c, isC, h⟩ := bind_ok h
    obtain ⟨d, isD, h⟩ := bind_ok h
    cases h
    exact ⟨Json.required_eq_ok_iff.1 isA, Json.required_eq_ok_iff.1 isB,
      Json.required_eq_ok_iff.1 isC, Json.required_eq_ok_iff.1 isD⟩
  · rintro ⟨rfl, rfl, rfl, rfl⟩
    rfl

theorem faithful_record : record.Faithful Draft.holds told where
  distinct := by decide
  keys _ := rfl
  blank := by
    intro m mem
    simp only [record, List.mem_cons, List.not_mem_nil, or_false] at mem
    rcases mem with rfl | rfl | rfl | rfl
    all_goals rfl
  given := by
    intro m mem draft
    simp only [record, List.mem_cons, List.not_mem_nil, or_false] at mem
    rcases mem with rfl | rfl | rfl | rfl
    all_goals simp [Json.Member.ofShape, Draft.holds]
  taken := by
    intro m mem draft value next read
    simp only [record, List.mem_cons, List.not_mem_nil, or_false] at mem
    rcases mem with rfl | rfl | rfl | rfl
    all_goals
      obtain ⟨word, rfl, rfl⟩ :=
        (Json.ofShape_ofValue_eq_ok_iff Json.word_ofValue_eq_ok_iff).1 read
      refine ⟨rfl, fun key differs => ?_⟩
      simp only [Json.Member.ofShape, ne_eq] at differs
      simp [Draft.holds, differs]
  readable := by
    intro state member told m mem same draft
    have word : ∃ word, member.2 = wordJson word := by
      simp only [AccountState.told, List.mem_cons, List.not_mem_nil, or_false] at told
      rcases told with rfl | rfl | rfl | rfl
      all_goals exact ⟨_, rfl⟩
    obtain ⟨word, isWord⟩ := word
    simp only [record, List.mem_cons, List.not_mem_nil, or_false] at mem
    rcases mem with rfl | rfl | rfl | rfl
    all_goals
      exact ⟨_, (Json.ofShape_ofValue_eq_ok_iff Json.word_ofValue_eq_ok_iff).2 ⟨word, isWord, rfl⟩⟩
  complete := complete_eq_ok_iff

end AccountState

namespace TransactionState

/-- A text denotes an id: marks, however many, and digits of either case that spell its bytes. -/
def Denotes (text : String) (id : TransactionId) : Prop :=
  ∃ marks digits, text.toList = (List.replicate marks ['0', 'x']).flatten ++ digits ∧
    Hex.Spells digits id.toList

theorem dropHexMarks_marks (marks : Nat) (chars : List Char) :
    dropHexMarks ((List.replicate marks ['0', 'x']).flatten ++ chars) = dropHexMarks chars := by
  induction marks with
  | zero => rfl
  | succ marks ih =>
    rw [List.replicate_succ, List.flatten_cons, List.append_assoc]
    exact ih

theorem dropHexMarks_spells {digits : List Char} {bytes : ByteString}
    (h : Hex.Spells digits bytes) : dropHexMarks digits = digits := by
  unfold dropHexMarks
  split
  · exact absurd h Hex.not_spells_mark
  · rfl

theorem exists_marks (chars : List Char) :
    ∃ marks, chars = (List.replicate marks ['0', 'x']).flatten ++ dropHexMarks chars := by
  fun_induction dropHexMarks chars with
  | case1 rest ih =>
    obtain ⟨marks, same⟩ := ih
    refine ⟨marks + 1, ?_⟩
    rw [List.replicate_succ, List.flatten_cons, List.append_assoc, ← same]
    rfl
  | case2 chars => exact ⟨0, rfl⟩

theorem denotes_iff {text : String} {id : TransactionId} :
    Denotes text id ↔
      Hex.decodeFixed? 32 (String.ofList (dropHexMarks text.toList)) = some id := by
  rw [Hex.decodeFixed?_eq_some_iff, String.toList_ofList]
  constructor
  · rintro ⟨marks, digits, spelled, bytes⟩
    rw [spelled, dropHexMarks_marks, dropHexMarks_spells bytes]
    exact bytes
  · intro bytes
    obtain ⟨marks, spelled⟩ := exists_marks text.toList
    exact ⟨marks, _, spelled, bytes⟩

theorem ofMessage_eq_ok_iff {text label : String} {state : TransactionState} :
    ofMessage text label = .ok state ↔ Denotes text state.id ∧ label = state.label := by
  rw [denotes_iff, ofMessage]
  cases Hex.decodeFixed? 32 (String.ofList (dropHexMarks text.toList)) with
  | none => simp
  | some bytes =>
    obtain ⟨id, found⟩ := state
    simp

end TransactionState

namespace Rpc

def told (message : String × String) : List (String × Json) :=
  [("id", .string message.1), ("state", .string message.2)]

def MessageDraft.holds (draft : MessageDraft) (key : String) : Option Json :=
  if key = "id" then draft.id.map Json.string
  else if key = "state" then draft.state.map Json.string
  else none

theorem complete_eq_ok_iff (draft : MessageDraft) (said : String × String) :
    message.complete draft = .ok said ↔
      ∀ member ∈ told said, draft.holds member.1 = some member.2 := by
  obtain ⟨id, state⟩ := draft
  have tells : (∀ member ∈ told said, MessageDraft.holds ⟨id, state⟩ member.1 = some member.2) ↔
      id = some said.1 ∧ state = some said.2 := by
    simp [told, MessageDraft.holds]
  rw [tells]
  constructor
  · intro h
    obtain ⟨a, isA, h⟩ := bind_ok h
    obtain ⟨b, isB, h⟩ := bind_ok h
    cases h
    exact ⟨Json.required_eq_ok_iff.1 isA, Json.required_eq_ok_iff.1 isB⟩
  · rintro ⟨rfl, rfl⟩
    rfl

theorem faithful_message : message.Faithful MessageDraft.holds told where
  distinct := by decide
  keys _ := rfl
  blank := by
    intro m mem
    simp only [message, List.mem_cons, List.not_mem_nil, or_false] at mem
    rcases mem with rfl | rfl
    all_goals rfl
  given := by
    intro m mem draft
    simp only [message, List.mem_cons, List.not_mem_nil, or_false] at mem
    rcases mem with rfl | rfl
    all_goals simp [Json.Member.ofShape, MessageDraft.holds]
  taken := by
    intro m mem draft value next read
    simp only [message, List.mem_cons, List.not_mem_nil, or_false] at mem
    rcases mem with rfl | rfl
    all_goals
      obtain ⟨text, rfl, rfl⟩ :=
        (Json.ofShape_ofValue_eq_ok_iff Json.text_ofValue_eq_ok_iff).1 read
      refine ⟨rfl, fun key differs => ?_⟩
      simp only [Json.Member.ofShape, ne_eq] at differs
      simp [MessageDraft.holds, differs]
  readable := by
    intro said member told m mem same draft
    have text : ∃ text, member.2 = Json.string text := by
      simp only [Rpc.told, List.mem_cons, List.not_mem_nil, or_false] at told
      rcases told with rfl | rfl
      all_goals exact ⟨_, rfl⟩
    obtain ⟨text, isText⟩ := text
    simp only [message, List.mem_cons, List.not_mem_nil, or_false] at mem
    rcases mem with rfl | rfl
    all_goals
      exact ⟨_, (Json.ofShape_ofValue_eq_ok_iff Json.text_ofValue_eq_ok_iff).2 ⟨text, isText, rfl⟩⟩
  complete := complete_eq_ok_iff

def IsInvalid {α : Type} (answer : Except NodeError α) : Prop :=
  ∃ detail, answer = .error (.invalidResponse detail)

theorem accountStateOf_eq_ok_iff {result : Json} (ascend : result.KeysAscend)
    {state : AccountState} : accountStateOf result = .ok state ↔ result.Supplies state.told := by
  rw [← AccountState.faithful_record.ofValue_eq_ok_iff rfl ascend, accountStateOf]
  cases AccountState.record.ofValue result with
  | error fault => simp [invalid]
  | ok found => simp

theorem accountStateOf_ok_or_invalid (result : Json) :
    (∃ state, accountStateOf result = .ok state) ∨ IsInvalid (accountStateOf result) := by
  rw [accountStateOf]
  cases AccountState.record.ofValue result with
  | error fault => exact Or.inr ⟨_, rfl⟩
  | ok found => exact Or.inl ⟨found, rfl⟩

def Reports (result : Json) (state : TransactionState) : Prop :=
  ∃ text, result.Supplies (told (text, state.label)) ∧ TransactionState.Denotes text state.id

theorem transactionStateOf_eq_ok_iff {result : Json} (ascend : result.KeysAscend)
    {state : TransactionState} : transactionStateOf result = .ok state ↔ Reports result state := by
  have reads : ∀ said, message.ofValue result = .ok said ↔ result.Supplies (told said) :=
    fun said => faithful_message.ofValue_eq_ok_iff rfl ascend
  constructor
  · intro h
    unfold transactionStateOf at h
    split at h
    · rename_i id label read
      obtain ⟨denotes, rfl⟩ := TransactionState.ofMessage_eq_ok_iff.1 h
      exact ⟨id, (reads _).1 read, denotes⟩
    · cases h
  · rintro ⟨text, supplies, denotes⟩
    rw [transactionStateOf, (reads _).2 supplies]
    exact TransactionState.ofMessage_eq_ok_iff.2 ⟨denotes, rfl⟩

theorem transactionStateOf_ok_or_invalid (result : Json) :
    (∃ state, transactionStateOf result = .ok state) ∨ IsInvalid (transactionStateOf result) := by
  unfold transactionStateOf
  split
  · rename_i id label read
    unfold TransactionState.ofMessage
    split
    · exact Or.inl ⟨_, rfl⟩
    · exact Or.inr ⟨_, rfl⟩
  · exact Or.inr ⟨_, rfl⟩

/-- The text is an object without an error, or with a null one, and with a result. -/
def Yields (text : String) (result : Json) : Prop :=
  ∃ fields, Json.fieldsOf text = .ok fields ∧
    (∀ error, Json.last? "error" fields = some error → error = .null) ∧
    Json.last? "result" fields = some result ∧ result ≠ .null

def Refuses (text : String) (error : Json) : Prop :=
  ∃ fields, Json.fieldsOf text = .ok fields ∧ Json.last? "error" fields = some error ∧
    error ≠ .null

theorem isNull_iff {value : Json} : value.isNull = true ↔ value = .null := by
  cases value <;> simp [Json.isNull]

def resultAmong (method text : String) (fields : List (String × Json)) : Except NodeError Json :=
  let missing := .error (.invalidResponse ("no result in response to " ++ method ++ ": " ++ text))
  match Json.last? "result" fields with
  | some result => if result.isNull then missing else .ok result
  | none => missing

theorem resultAmong_cases (method text : String) (fields : List (String × Json)) :
    (∃ result, Json.last? "result" fields = some result ∧ result ≠ .null ∧
      resultAmong method text fields = .ok result) ∨
    (∀ result, Json.last? "result" fields = some result → result = .null) ∧
      IsInvalid (resultAmong method text fields) := by
  unfold resultAmong
  cases found : Json.last? "result" fields with
  | none => exact Or.inr ⟨by simp, _, rfl⟩
  | some result =>
    by_cases null : result = .null
    · subst null
      refine Or.inr ⟨fun result same => ?_, _, rfl⟩
      cases same
      rfl
    · refine Or.inl ⟨result, rfl, null, ?_⟩
      exact if_neg (mt isNull_iff.1 null)

theorem resultOf_of_fieldsOf {text : String} {fields : List (String × Json)}
    (h : Json.fieldsOf text = .ok fields) (method : String) :
    resultOf method text =
      match Json.last? "error" fields with
      | some error =>
        if error.isNull then resultAmong method text fields
        else .error (.refused (method ++ ": " ++ error.compact))
      | none => resultAmong method text fields := by
  have parsed := Json.parse_eq_object_iff.2 ⟨fields, h, rfl⟩
  have nonempty : text ≠ "" := by
    rintro rfl
    cases h
  rw [resultOf, if_neg nonempty, parsed]
  dsimp only
  rw [Json.lookup?_sortMembers, Json.lookup?_sortMembers]
  cases Json.last? "error" fields with
  | none => rfl
  | some error => rfl

theorem isInvalid_of_noFields {text : String} (h : ∀ fields, Json.fieldsOf text ≠ .ok fields)
    (method : String) : IsInvalid (resultOf method text) := by
  unfold resultOf
  split
  · exact ⟨_, rfl⟩
  · split
    · exact ⟨_, rfl⟩
    · rename_i response parsed
      dsimp only
      split
      · obtain ⟨fields, read, -⟩ := Json.parse_eq_object_iff.1 parsed
        exact absurd read (h fields)
      · exact ⟨_, rfl⟩

theorem Yields.unique {text : String} {a b : Json} (first : Yields text a)
    (second : Yields text b) : a = b := by
  obtain ⟨fields, read, -, found, -⟩ := first
  obtain ⟨others, again, -, found', -⟩ := second
  cases read.symm.trans again
  exact Option.some.inj (found.symm.trans found')

theorem Yields.not_refuses {text : String} {a error : Json} (h : Yields text a) :
    ¬ Refuses text error := by
  rintro ⟨others, again, found, given⟩
  obtain ⟨fields, read, noError, -⟩ := h
  cases read.symm.trans again
  exact given (noError error found)

theorem Refuses.unique {text : String} {a b : Json} (first : Refuses text a)
    (second : Refuses text b) : a = b := by
  obtain ⟨fields, read, found, -⟩ := first
  obtain ⟨others, again, found', -⟩ := second
  cases read.symm.trans again
  exact Option.some.inj (found.symm.trans found')

theorem resultOf_cases (method text : String) :
    (∃ result, Yields text result ∧ resultOf method text = .ok result) ∨
    (∃ error, Refuses text error ∧
      resultOf method text = .error (.refused (method ++ ": " ++ error.compact))) ∨
    (∀ result, ¬ Yields text result) ∧ (∀ error, ¬ Refuses text error) ∧
      IsInvalid (resultOf method text) := by
  by_cases object : ∃ fields, Json.fieldsOf text = .ok fields
  · obtain ⟨fields, read⟩ := object
    have answer := resultOf_of_fieldsOf read method
    by_cases failed : ∃ error, Json.last? "error" fields = some error ∧ error ≠ .null
    · obtain ⟨error, found, given⟩ := failed
      refine Or.inr (Or.inl ⟨error, ⟨fields, read, found, given⟩, ?_⟩)
      simp only [answer, found]
      exact if_neg (mt isNull_iff.1 given)
    · have noError : ∀ error, Json.last? "error" fields = some error → error = .null :=
        fun error found => Classical.byContradiction fun given => failed ⟨error, found, given⟩
      have same : resultOf method text = resultAmong method text fields := by
        rw [answer]
        cases found : Json.last? "error" fields with
        | none => rfl
        | some error =>
          rw [noError error found]
          rfl
      rw [same]
      rcases resultAmong_cases method text fields with ⟨result, found, given, ok⟩ | ⟨missing, bad⟩
      · exact Or.inl ⟨result, ⟨fields, read, noError, found, given⟩, ok⟩
      · refine Or.inr (Or.inr ⟨?_, ?_, bad⟩)
        · rintro result ⟨others, again, -, found, given⟩
          cases read.symm.trans again
          exact given (missing result found)
        · rintro error ⟨others, again, found, given⟩
          cases read.symm.trans again
          exact given (noError error found)
  · have noFields : ∀ fields, Json.fieldsOf text ≠ .ok fields :=
      fun fields read => object ⟨fields, read⟩
    refine Or.inr (Or.inr ⟨?_, ?_, isInvalid_of_noFields noFields method⟩)
    · rintro result ⟨fields, read, -⟩
      exact noFields fields read
    · rintro error ⟨fields, read, -⟩
      exact noFields fields read

/-- An answer is read exactly from a text: as a value if the text yields a result that is accepted
as this value, as the refusal if it holds an error, and as no response otherwise. -/
structure ReadsExactly {α : Type} (method text : String) (accepted : Json → α → Prop)
    (answer : Except NodeError α) : Prop where
  value : ∀ a, answer = .ok a ↔ ∃ result, Yields text result ∧ accepted result a
  refusal : ∀ error, Refuses text error →
    answer = .error (.refused (method ++ ": " ++ error.compact))
  otherwise : (∃ a, answer = .ok a) ∨ (∃ error, Refuses text error) ∨ IsInvalid answer

theorem keysAscend_of_yields {text : String} {result : Json} (h : Yields text result) :
    result.KeysAscend := by
  obtain ⟨fields, read, -, found, -⟩ := h
  exact Json.keysAscend_of_fieldsOf read found

theorem readsExactly_bind {α : Type} {read : Json → Except NodeError α}
    {accepted : Json → α → Prop}
    (reads : ∀ {result}, result.KeysAscend → ∀ {a}, read result = .ok a ↔ accepted result a)
    (total : ∀ result, (∃ a, read result = .ok a) ∨ IsInvalid (read result))
    (method text : String) :
    ReadsExactly method text accepted (resultOf method text >>= read) := by
  rcases resultOf_cases method text with ⟨result, yields, ok⟩ | ⟨error, refuses, failed⟩ |
    ⟨noResult, noError, detail, failed⟩
  · rw [ok]
    have ascend := keysAscend_of_yields yields
    refine ⟨fun a => ?_, fun error refuses => absurd refuses yields.not_refuses, ?_⟩
    · constructor
      · exact fun h => ⟨result, yields, (reads ascend).1 h⟩
      · rintro ⟨other, yields', accepts⟩
        exact (reads ascend).2 (yields.unique yields' ▸ accepts)
    · exact (total result).imp_right Or.inr
  · rw [failed]
    refine ⟨fun a => ?_, fun other refuses' => ?_, Or.inr (Or.inl ⟨error, refuses⟩)⟩
    · constructor
      · intro h
        cases h
      · rintro ⟨result, yields, -⟩
        exact absurd refuses yields.not_refuses
    · rw [refuses.unique refuses']
      rfl
  · rw [failed]
    refine ⟨fun a => ?_, fun error refuses => absurd refuses (noError error),
      Or.inr (Or.inr ⟨detail, rfl⟩)⟩
    constructor
    · intro h
      cases h
    · rintro ⟨result, yields, -⟩
      exact absurd yields (noResult result)

def responseMembers (result : Json) : List (String × Json) :=
  [("id", .number (.natural 1)), ("jsonrpc", .string "2.0"), ("result", result)]

def response (result : Json) : Json := .object (responseMembers result)

theorem ascending_responseMembers (result : Json) : Json.Ascending (responseMembers result) := by
  refine Json.ascending_iff_keys.2 ?_
  change ["id", "jsonrpc", "result"].Pairwise (· < ·)
  decide

theorem canonical_response {depth : Nat} {result : Json} (h : Json.Canonical depth result) :
    Json.Canonical (depth + 1) (response result) := by
  refine .object (ascending_responseMembers result) ?_
  intro member mem
  simp only [responseMembers, List.mem_cons, List.not_mem_nil, or_false] at mem
  rcases mem with rfl | rfl | rfl
  · exact .number depth (show 1 < Json.significandBound by decide)
  · exact .string depth "2.0"
  · exact h

theorem ascending_told (state : AccountState) : Json.Ascending state.told := by
  refine Json.ascending_iff_keys.2 ?_
  change ["currentBalance", "currentNonce", "projectedBalance", "projectedNonce"].Pairwise (· < ·)
  decide

theorem canonical_accountState (depth : Nat) (state : AccountState) :
    Json.Canonical (depth + 1) state.toJson := by
  refine .object (ascending_told state) ?_
  intro member mem
  simp only [List.mem_cons, List.not_mem_nil, or_false] at mem
  rcases mem with rfl | rfl | rfl | rfl
  all_goals exact .number depth (UInt64.toNat_lt _)

theorem supplies_toJson (state : AccountState) : state.toJson.Supplies state.told :=
  fun _ mem => Json.lookup?_of_mem (ascending_told state).nodup mem

theorem yields_response {result : Json} (canonical : Json.Canonical 126 result)
    (given : result ≠ .null) : Yields (response result).compact result := by
  obtain ⟨fields, read, sorted⟩ :=
    Json.parse_eq_object_iff.1 (Json.parse_compact (canonical_response canonical))
  have last : ∀ key, Json.last? key fields = Json.lookup? key (responseMembers result) := by
    intro key
    rw [← Json.lookup?_sortMembers, sorted]
  refine ⟨fields, read, fun error found => ?_, ?_, given⟩
  · rw [last] at found
    cases found
  · rw [last]
    rfl

def received (transport : Transport) (nodeUrl : String) (calls : List Call) (call : Call) :
    Except NodeError String :=
  (transport (calls.map (request (endpoint nodeUrl))) (request (endpoint nodeUrl) call)).answer.map
    Utf8.textOfBody

theorem ask_answer {α : Type} (transport : Transport) (nodeUrl : String)
    (read : Json → Except NodeError α) (calls : List Call) (call : Call) :
    (ask transport (endpoint nodeUrl) read calls call).answer =
      received transport nodeUrl calls call >>= fun text => resultOf call.method text >>= read := by
  cases reply : transport (calls.map (request (endpoint nodeUrl)))
    (request (endpoint nodeUrl) call) with
  | mk delay answer =>
    simp only [ask, received, reply]
    cases answer with
    | error error => rfl
    | ok body => rfl

/-- Every response of a node is read exactly, the states of accounts and of transfers are taken
from results that supply all of them, and each state that is sent comes back. -/
theorem responses_read_exactly :
    (∀ method text, ReadsExactly method text (fun result value => value = result)
      (resultOf method text)) ∧
    (∀ method text, ReadsExactly method text (fun result state => result.Supplies state.told)
      (resultOf method text >>= accountStateOf)) ∧
    (∀ method text, ReadsExactly method text Reports
      (resultOf method text >>= transactionStateOf)) ∧
    (∀ transport nodeUrl calls address,
      ((node transport nodeUrl).accountState calls address).answer =
        received transport nodeUrl calls (.accountState address) >>= fun text =>
          resultOf "getAccountState" text >>= accountStateOf) ∧
    (∀ transport nodeUrl calls signed,
      ((node transport nodeUrl).submit calls signed).answer =
        received transport nodeUrl calls (.submit signed) >>= fun text =>
          resultOf "submitTransaction" text >>= transactionStateOf) ∧
    (∀ transport nodeUrl calls id,
      ((node transport nodeUrl).transactionState calls id).answer =
        received transport nodeUrl calls (.transactionState id) >>= fun text =>
          resultOf "getTransactionState" text >>= transactionStateOf) ∧
    ∀ method state,
      (resultOf method (response state.toJson).compact >>= accountStateOf) = .ok state := by
  have accounts := readsExactly_bind accountStateOf_eq_ok_iff accountStateOf_ok_or_invalid
  refine ⟨fun method text => ?_, accounts,
    readsExactly_bind transactionStateOf_eq_ok_iff transactionStateOf_ok_or_invalid,
    fun transport nodeUrl calls address => ask_answer transport nodeUrl accountStateOf calls _,
    fun transport nodeUrl calls signed => ask_answer transport nodeUrl transactionStateOf calls _,
    fun transport nodeUrl calls id => ask_answer transport nodeUrl transactionStateOf calls _,
    fun method state => ?_⟩
  · have whole : ReadsExactly method text (fun result value => value = result)
        (resultOf method text >>= Except.ok) :=
      readsExactly_bind (fun _ _ => by rw [Except.ok.injEq, eq_comm])
        (fun result => Or.inl ⟨result, rfl⟩) method text
    rwa [show resultOf method text >>= Except.ok = resultOf method text from bind_pure _] at whole
  · have yields := yields_response (canonical_accountState 125 state) (by simp [AccountState.toJson])
    exact ((accounts method _).value state).2 ⟨_, yields, supplies_toJson state⟩

end Rpc

end LedgerWallet
