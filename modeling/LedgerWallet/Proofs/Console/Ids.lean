import LedgerWallet.Proofs.Bytes.Marked
import LedgerWallet.Proofs.Console.Dispatch
import LedgerWallet.Proofs.Console.Reach
import LedgerWallet.Proofs.Node.Responses

namespace LedgerWallet

open Text

variable {text label : String} {id : TransactionId}

namespace TransactionState

def RepeatsMark (text : String) : Prop :=
  ∃ marks digits, 2 ≤ marks ∧ digits.length = 64 ∧ (∀ c ∈ digits, Hex.IsDigit c) ∧
    text.toList = (List.replicate marks ['0', 'x']).flatten ++ digits

theorem length_marks (marks : Nat) :
    (List.replicate marks ['0', 'x']).flatten.length = 2 * marks := by
  rw [List.length_flatten, List.map_replicate, List.sum_replicate_nat]
  exact Nat.mul_comm _ _

theorem RepeatsMark.not_hasDigits (h : RepeatsMark text) : ¬ Hex.HasDigits text 64 := by
  obtain ⟨marks, digits, several, length, -, whole⟩ := h
  rintro ⟨mark, digits', known, length', -, whole'⟩
  have same := congrArg List.length (whole.symm.trans whole')
  rw [List.length_append, List.length_append, length_marks, length, length'] at same
  rcases known with rfl | rfl
  all_goals
    simp only [List.length_nil, List.length_cons] at same
    omega

theorem denotes_of_hex (h : Hex.Denotes text id.toList) : Denotes text id := by
  obtain ⟨mark, digits, rfl | rfl, spelled, whole⟩ := h
  · exact ⟨0, digits, whole, spelled⟩
  · exact ⟨1, digits, whole, spelled⟩

theorem hex_of_denotes (h : Denotes text id) (single : ¬ RepeatsMark text) :
    Hex.Denotes text id.toList := by
  obtain ⟨marks, digits, whole, spelled⟩ := h
  match marks with
  | 0 => exact ⟨[], digits, Or.inl rfl, spelled, whole⟩
  | 1 => exact ⟨['0', 'x'], digits, Or.inr rfl, spelled, whole⟩
  | marks + 2 =>
    have length := Hex.length_of_spells spelled
    rw [id.length_toList] at length
    exact absurd ⟨marks + 2, digits, by omega, length, Hex.isDigit_of_spells spelled, whole⟩ single

theorem exists_denotes_iff :
    (∃ id, Denotes text id) ↔ Hex.HasDigits text 64 ∨ RepeatsMark text := by
  constructor
  · rintro ⟨id, denotes⟩
    by_cases repeats : RepeatsMark text
    · exact Or.inr repeats
    · exact Or.inl (Hex.exists_denotes_iff.1 ⟨id, hex_of_denotes denotes repeats⟩)
  · rintro (digits | ⟨marks, digits, -, length, isDigit, whole⟩)
    · obtain ⟨id, denotes⟩ := (Hex.exists_denotes_iff (n := 32)).2 digits
      exact ⟨id, denotes_of_hex denotes⟩
    · obtain ⟨bytes, spelled⟩ := Hex.exists_spells (by omega) isDigit
      have twice := Hex.length_of_spells spelled
      exact ⟨⟨bytes, by omega⟩, marks, digits, whole, spelled⟩

theorem ofMessage_of_not_denotes (h : ∀ id, ¬ Denotes text id) :
    ofMessage text label = .error (.invalidResponse ("bad transaction id: " ++ text)) := by
  rw [ofMessage]
  cases read : Hex.decodeFixed? 32 (String.ofList (dropHexMarks text.toList)) with
  | some id => exact absurd (denotes_iff.2 read) (h id)
  | none => rfl

end TransactionState

namespace Console

variable {setup : Setup} {console next : Console} {line : String}

theorem readId_eq_ok_iff : readId text = .ok id ↔ Hex.Denotes text id.toList := by
  refine Iff.trans ?_ Hex.decodeFixed?_dropHexMark_eq_some_iff
  unfold readId
  cases Hex.decodeFixed? 32 (dropHexMark text) with
  | some found => simp
  | none => simp

theorem exists_readId_iff : (∃ id, readId text = .ok id) ↔ Hex.HasDigits text 64 := by
  simp only [readId_eq_ok_iff]
  exact Hex.exists_denotes_iff

theorem readId_of_not_hasDigits (h : ¬ Hex.HasDigits text 64) :
    readId text = .error (.badTransactionId text) := by
  cases read : readId text with
  | ok id => exact absurd (exists_readId_iff.1 ⟨id, read⟩) h
  | error error =>
    unfold readId at read
    split at read
    · cases read
    · exact read.symm

/-- The text is entered as an id, behind the name of the command or else at its prompt. -/
def EntersId (console : Console) (line text : String) (next : Console) : Prop :=
  ∃ command params, Command.dispatch line = some (command, params) ∧ command.action = .statusTx ∧
    run (paramsOr params "Enter a transaction id") console = (.ok text, next)

theorem entersId_line (given : text ≠ "") (trimmed : trim text = text) (console : Console) :
    EntersId console ("status-tx " ++ text) text console := by
  have known : ("status-tx", Action.statusTx) ∈ Command.all.map fun command =>
      (command.name, command.action) := by decide
  obtain ⟨command, member, same⟩ := List.mem_map.1 known
  obtain ⟨name, action⟩ := Prod.mk.inj same
  have dispatched := Command.dispatch_name_append member text
  rw [name, trimmed] at dispatched
  exact ⟨command, text, dispatched, action, run_paramsOr_of_given given _ console⟩

theorem EntersId.calls (entered : EntersId console line text next) :
    next.calls = console.calls := by
  obtain ⟨_, params, -, -, ran⟩ := entered
  have kept := quiet_paramsOr params "Enter a transaction id" console
  rw [ran] at kept
  exact congrArg Desk.calls kept

def lookUp (setup : Setup) (id : TransactionId) : ConsoleM Unit := do
  let state ← transactionState setup id
  say ("Transaction: 0x" ++ Hex.encode state.id.toList)
  say ("State: " ++ state.label)

theorem EntersId.run_execute (entered : EntersId console line text next) (setup : Setup) :
    run (execute setup line) console =
      run ((liftM (readId text) >>= lookUp setup) >>= fun _ => pure Flow.goOn) next := by
  obtain ⟨command, params, dispatched, action, ran⟩ := entered
  have performed : execute setup line = statusTx setup params >>= fun _ => pure Flow.goOn := by
    rw [execute, dispatched]
    dsimp only
    rw [action]
    rfl
  have reads : run (statusTx setup params) console =
      run (liftM (readId text) >>= lookUp setup) next := by
    rw [statusTx, run_bind_of_ok ran]
    rfl
  rw [performed, run_goOn, run_goOn, reads]

theorem EntersId.refused {error : WalletError} (entered : EntersId console line text next)
    (unread : readId text = .error error) (setup : Setup) :
    run (execute setup line) console = (.error error, next) := by
  rw [entered.run_execute, unread]
  exact run_bind_of_error (run_bind_of_error (run_lift (.error error) next))

theorem EntersId.asked (entered : EntersId console line text next)
    (read : readId text = .ok id) (setup : Setup) :
    (run (execute setup line) console).2.calls = console.calls ++ [.transactionState id] := by
  rw [entered.run_execute, read, run_goOn, run_bind_of_ok (run_lift (.ok id) next), lookUp,
    run_bind, run_transactionState]
  dsimp only
  rw [← entered.calls]
  cases (next.wallet.transactionState setup.node next.calls id).1 with
  | error error => rfl
  | ok state => rfl

/-- The readers take the same ids from a text exactly unless it repeats the mark. What is typed is
taken if the digits stand behind at most one mark, and then it is received as the same id. The
command asks the node once for an id that it takes, and otherwise refuses the text unasked. -/
theorem id_readers_agree_iff (text label : String) :
    let typed := readId text
    let received := TransactionState.ofMessage text label
    ((∀ id, typed = .ok id ↔ received = .ok ⟨id, label⟩) ↔
      ¬ TransactionState.RepeatsMark text) ∧
    (∀ id, typed = .ok id → received = .ok ⟨id, label⟩) ∧
    ((∃ id, typed = .ok id) ↔ Hex.HasDigits text 64) ∧
    ((∃ state, received = .ok state) ↔
      Hex.HasDigits text 64 ∨ TransactionState.RepeatsMark text) ∧
    (¬ Hex.HasDigits text 64 → typed = .error (.badTransactionId text)) ∧
    (¬ Hex.HasDigits text 64 → ¬ TransactionState.RepeatsMark text →
      received = .error (.invalidResponse ("bad transaction id: " ++ text))) ∧
    (∀ setup console line next, EntersId console line text next →
      match typed with
      | .ok id =>
        (run (execute setup line) console).2.calls = console.calls ++ [.transactionState id]
      | .error error =>
        run (execute setup line) console = (.error error, next) ∧ next.calls = console.calls) ∧
    (text ≠ "" → trim text = text → ∀ console,
      EntersId console ("status-tx " ++ text) text console) := by
  intro typed received
  have takes : ∀ id, received = .ok ⟨id, label⟩ ↔ TransactionState.Denotes text id := fun id =>
    TransactionState.ofMessage_eq_ok_iff.trans (and_iff_left rfl)
  have typedReceived : ∀ id, typed = .ok id → received = .ok ⟨id, label⟩ := fun id read =>
    (takes id).2 (TransactionState.denotes_of_hex (readId_eq_ok_iff.1 read))
  have receives : (∃ state, received = .ok state) ↔
      Hex.HasDigits text 64 ∨ TransactionState.RepeatsMark text := by
    rw [← TransactionState.exists_denotes_iff]
    constructor
    · rintro ⟨state, read⟩
      exact ⟨state.id, (TransactionState.ofMessage_eq_ok_iff.1 read).1⟩
    · rintro ⟨id, denotes⟩
      exact ⟨⟨id, label⟩, (takes id).2 denotes⟩
  refine ⟨⟨?_, ?_⟩, typedReceived, exists_readId_iff, receives, readId_of_not_hasDigits, ?_, ?_,
    entersId_line⟩
  · intro agree repeats
    obtain ⟨id, denotes⟩ := TransactionState.exists_denotes_iff.2 (Or.inr repeats)
    have read := (agree id).2 ((takes id).2 denotes)
    exact repeats.not_hasDigits (exists_readId_iff.1 ⟨id, read⟩)
  · intro single id
    refine ⟨typedReceived id, fun read => ?_⟩
    exact readId_eq_ok_iff.2 (TransactionState.hex_of_denotes ((takes id).1 read) single)
  · intro few single
    refine TransactionState.ofMessage_of_not_denotes fun id denotes => ?_
    exact (TransactionState.exists_denotes_iff.1 ⟨id, denotes⟩).elim few single
  · intro setup console line next entered
    cases read : typed with
    | ok id => exact entered.asked read setup
    | error error => exact ⟨entered.refused read setup, entered.calls⟩

/-- An id behind two marks is received, but typed it is refused. -/
theorem id_behind_two_marks :
    let text := "0x0x4444444444444444444444444444444444444444444444444444444444444444"
    TransactionState.ofMessage text "pending" = .ok ⟨.replicate 32 0x44, "pending"⟩ ∧
      run (execute Sample.setup ("status-tx " ++ text)) Sample.console =
        (.error (.badTransactionId text), Sample.console) ∧
      ¬ ∀ id, readId text = .ok id ↔
        TransactionState.ofMessage text "pending" = .ok ⟨id, "pending"⟩ := by
  intro text
  have repeats : TransactionState.RepeatsMark text := by
    refine ⟨2, List.replicate 64 '4', le_rfl, List.length_replicate, ?_, by decide +kernel⟩
    intro c member
    rw [List.eq_of_mem_replicate member]
    exact Or.inl (by decide)
  obtain ⟨agree, -, -, -, refused, -, entered, line⟩ := id_readers_agree_iff text "pending"
  have typed := refused repeats.not_hasDigits
  have shown := entered Sample.setup Sample.console _ Sample.console
    (line (by decide) (by decide +kernel) Sample.console)
  rw [typed] at shown
  exact ⟨ok_of_toOption (by decide +kernel), shown.1, fun same => agree.1 same repeats⟩

end Console

end LedgerWallet
