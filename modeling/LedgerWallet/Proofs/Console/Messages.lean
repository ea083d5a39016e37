import LedgerWallet.Proofs.Bytes.Marked
import LedgerWallet.Proofs.Console.Creating
import LedgerWallet.Proofs.Console.Dispatch
import LedgerWallet.Proofs.Wallet.Signing

namespace LedgerWallet.Console

open Text

variable {setup : Setup} {console : Console} {account : Account} {params : String}
  {message : ByteString}

def withSignature (console : Console) (signature : Signature) : Console :=
  { console with output := console.output ++
      ("> " ++ ("signature (in hex): " ++ Hex.encode signature.bytes.toList) ++ "\n") }

theorem encode_ne_nil {text : String} (given : text ≠ "") : Utf8.encode text ≠ [] := by
  intro empty
  have same := Utf8.decode?_encode text
  rw [empty, show ([] : ByteString) = Utf8.encode "" from rfl, Utf8.decode?_encode] at same
  exact given (Option.some.inj same).symm

/-- The message is signed with the account's key, and nothing but the signature is printed. -/
def PrintsSignature (console : Console) (account : Account) (message : ByteString)
    (ended : Except WalletError Flow × Console) : Prop :=
  ∃ signature, account.sign message = .ok signature ∧
    ended = (.ok .goOn, console.withSignature signature)

theorem printsSignature_of_current (reachable : Reachable setup console)
    (current : console.wallet.currentAccount = .ok account) (message : ByteString)
    {action : ConsoleM Unit}
    (signs : run action console = run (sign message >>= saySignature) console) :
    PrintsSignature console account message
      (run (action >>= fun _ => pure Flow.goOn) console) := by
  obtain ⟨signature, signed, made⟩ := Wallet.sign_of_current reachable.sound current message
  have done : run (sign message) console = (.ok signature, console) := by rw [run_sign, signed]
  refine ⟨signature, made, ?_⟩
  rw [run_goOn, signs, run_bind_of_ok done]
  rfl

theorem run_accountTextSign (current : console.wallet.currentAccount = .ok account)
    (given : params ≠ "") : run (accountTextSign setup params) console =
      run (sign (Utf8.encode params) >>= saySignature) console := by
  have here : run (currentOrChosen setup) console = (.ok account, console) :=
    run_currentOrChosen_of_current setup current
  rw [accountTextSign, run_bind_of_ok here, run_bind_of_ok (run_paramsOr_of_given given _ console)]

theorem run_accountSign (current : console.wallet.currentAccount = .ok account)
    (given : params ≠ "") : run (accountSign setup params) console =
      match Hex.decode (dropHexMark params) with
      | .ok message => run (sign message >>= saySignature) console
      | .error error => (.error (.messageNotHex error), console) := by
  have here : run (currentOrChosen setup) console = (.ok account, console) :=
    run_currentOrChosen_of_current setup current
  rw [accountSign, run_bind_of_ok here, run_bind_of_ok (run_paramsOr_of_given given _ console)]
  cases Hex.decode (dropHexMark params) with
  | error error => exact run_bind_of_error (run_lift (.error (.messageNotHex error)) console)
  | ok message => exact run_bind_of_ok (run_lift (.ok message) console)

theorem accountSign_of_denotes (reachable : Reachable setup console)
    (current : console.wallet.currentAccount = .ok account) (given : params ≠ "")
    (denotes : Hex.Denotes params message) :
    PrintsSignature console account message
      (run (perform setup .accountSign params) console) := by
  have decoded := Hex.decode_dropHexMark_eq_ok_iff.2 denotes
  refine printsSignature_of_current reachable current message ?_
  rw [run_accountSign current given, decoded]

theorem accountSign_of_unread (current : console.wallet.currentAccount = .ok account)
    (given : params ≠ "") (unread : ∀ message, ¬ Hex.Denotes params message) :
    ∃ error : WalletError, error.kind = .invalidInput ∧
      run (perform setup .accountSign params) console = (.error error, console) := by
  have ran : run (accountSign setup params) console = _ := run_accountSign current given
  cases decoded : Hex.decode (dropHexMark params) with
  | ok message => exact absurd (Hex.decode_dropHexMark_eq_ok_iff.1 decoded) (unread message)
  | error error =>
    rw [decoded] at ran
    exact ⟨.messageNotHex error, rfl, run_bind_of_error ran⟩

theorem accountSign_of_odd (current : console.wallet.currentAccount = .ok account)
    (given : params ≠ "") (odd : ¬ ∃ n, Hex.HasDigits params (2 * n)) :
    ∃ error : WalletError, error.kind = .invalidInput ∧
      run (perform setup .accountSign params) console = (.error error, console) := by
  refine accountSign_of_unread current given fun message denotes => ?_
  exact odd ⟨message.length, Hex.exists_denotes_iff.1 ⟨⟨message, rfl⟩, denotes⟩⟩

theorem accountSign_succeeds_iff (reachable : Reachable setup console)
    (current : console.wallet.currentAccount = .ok account) (given : params ≠ "") :
    (∃ next, run (perform setup .accountSign params) console = (.ok .goOn, next)) ↔
      ∃ n, Hex.HasDigits params (2 * n) := by
  constructor
  · rintro ⟨next, succeeded⟩
    refine Classical.byContradiction fun odd => ?_
    obtain ⟨error, -, failed⟩ : ∃ error : WalletError, error.kind = .invalidInput ∧
        run (perform setup .accountSign params) console = (.error error, console) :=
      accountSign_of_odd current given odd
    cases succeeded.symm.trans failed
  · rintro ⟨n, digits⟩
    obtain ⟨message, denotes⟩ := Hex.exists_denotes_iff.2 digits
    obtain ⟨signature, -, printed⟩ := accountSign_of_denotes reachable current given denotes
    exact ⟨_, printed⟩

/-- With a current account a text and the digits of its bytes, of either case and with or without a
mark, are signed alike. Digits are signed exactly if there are two for each byte, and otherwise
nothing is signed or printed. -/
theorem signing_commands_agree (reachable : Reachable setup console)
    (current : console.wallet.currentAccount = .ok account) :
    (∀ text digits, text ≠ "" → trim text = text → Hex.Denotes digits (Utf8.encode text) →
      ∃ signature, account.sign (Utf8.encode text) = .ok signature ∧
        run (execute setup ("account-text-sign " ++ text)) console =
          (.ok .goOn, console.withSignature signature) ∧
        run (execute setup ("account-sign " ++ digits)) console =
          (.ok .goOn, console.withSignature signature)) ∧
    ∀ params, isAllBlank params = false →
      let signed := run (execute setup ("account-sign " ++ params)) console
      (∀ message, Hex.Denotes (trim params) message →
        ∃ signature, account.sign message = .ok signature ∧
          signed = (.ok .goOn, console.withSignature signature)) ∧
      ((∃ next, signed = (.ok .goOn, next)) ↔ ∃ n, Hex.HasDigits (trim params) (2 * n)) ∧
      ((¬ ∃ n, Hex.HasDigits (trim params) (2 * n)) →
        ∃ error : WalletError, error.kind = .invalidInput ∧ signed = (.error error, console)) := by
  have textLine : ∀ params, execute setup ("account-text-sign " ++ params) =
      perform setup .accountTextSign (trim params) :=
    execute_named "account-text-sign" (by decide)
  have hexLine : ∀ params, execute setup ("account-sign " ++ params) =
      perform setup .accountSign (trim params) :=
    execute_named "account-sign" (by decide)
  constructor
  · intro text digits given trimmed denotes
    have some := encode_ne_nil given
    rw [textLine, hexLine, trimmed, trim_of_unbroken denotes.unbroken]
    have signs : run (accountTextSign setup text) console = _ := run_accountTextSign current given
    obtain ⟨signature, made, printed⟩ :=
      printsSignature_of_current reachable current (Utf8.encode text) signs
    obtain ⟨signature', made', printed'⟩ :=
      accountSign_of_denotes reachable current (denotes.ne_empty some) denotes
    cases made.symm.trans made'
    exact ⟨signature, made, printed, printed'⟩
  · intro params visible signed
    have given : trim params ≠ "" := by
      rw [ne_eq, trim_eq_empty_iff, visible]
      exact Bool.false_ne_true
    have line : signed = run (perform setup .accountSign (trim params)) console := by
      rw [← hexLine]
    rw [line]
    exact ⟨fun message => accountSign_of_denotes reachable current given,
      accountSign_succeeds_iff reachable current given, accountSign_of_odd current given⟩

/-- A letter outside ASCII takes two bytes, and of two marks the second one is no digit. -/
theorem accented_text_signed_alike :
    (∃ signature, Sample.account.sign [0x68, 0xC3, 0xA9] = .ok signature ∧
      run (execute Sample.setup "account-text-sign hé") Sample.console =
        (.ok .goOn, Sample.console.withSignature signature) ∧
      run (execute Sample.setup "account-sign 0x68C3a9") Sample.console =
        (.ok .goOn, Sample.console.withSignature signature)) ∧
      ∃ error : WalletError, error.kind = .invalidInput ∧
        run (execute Sample.setup "account-sign 0x0x68") Sample.console =
          (.error error, Sample.console) := by
  obtain ⟨alike, digitsOnly⟩ := signing_commands_agree reachable_sample currentAccount_sample
  constructor
  · have denotes : Hex.Denotes "0x68C3a9" (Utf8.encode "hé") :=
      Hex.decode_dropHexMark_eq_ok_iff.1 (ok_of_toOption (by decide +kernel))
    exact alike "hé" "0x68C3a9" (by decide) (by decide +kernel) denotes
  · obtain ⟨-, -, refused⟩ := digitsOnly "0x0x68" (by decide +kernel)
    refine refused ?_
    rintro ⟨n, digits⟩
    obtain ⟨message, denotes⟩ := Hex.exists_denotes_iff.2 digits
    have failed : (Hex.decode (dropHexMark (trim "0x0x68"))).toOption = none := by decide +kernel
    rw [Hex.decode_dropHexMark_eq_ok_iff.2 denotes] at failed
    cases failed

end LedgerWallet.Console
