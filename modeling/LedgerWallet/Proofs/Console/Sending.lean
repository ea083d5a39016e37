import LedgerWallet.Proofs.Console.Creating
import LedgerWallet.Proofs.Transfer.Encoding

namespace LedgerWallet

def TransferRequest.transfer (request : TransferRequest) (nonce : Nonce) : Transfer where
  nonce := nonce
  amount := request.amount
  recipient := request.recipient
  gasLimit := request.gasLimit
  gasPrice := request.gasPrice

/-- The fields of a transfer, each at its place, and behind them the signature of an account, which
covers them all. -/
structure Account.Signs (account : Account) (transfer : Transfer) (bytes : ByteString) : Prop where
  length : bytes.length = 116
  fields : transfer.LaidOut (bytes.take 52)
  signature : ∃ signature, account.sign (bytes.take 52) = .ok signature ∧
    bytes.drop 52 = signature.bytes.toList ∧
    Ed25519.verify account.publicKey (bytes.take 52) signature = true

theorem Account.signs_encode {account : Account} {transfer : Transfer} {signature : Signature}
    (signs : account.sign transfer.encode = .ok signature) :
    account.Signs transfer (SignedTransfer.encode ⟨transfer, signature⟩) := by
  obtain ⟨length, front, back⟩ := SignedTransfer.encode_parts ⟨transfer, signature⟩
  refine ⟨length, ?_, signature, ?_, back, ?_⟩ <;> rw [front]
  · exact transfer.laidOut_encode
  · exact signs
  · exact Account.verify_of_sign signs

namespace Console

def answer (setup : Setup) (console : Console) (address : Address) :
    Except NodeError AccountState :=
  (setup.node.accountState console.calls address).within console.wallet.patience "account state"

theorem answer_sample (console : Console) (address : Address) :
    answer Sample.setup console address = .ok Sample.accountState := by
  rw [answer]
  exact if_pos (Nat.zero_le _)

/-- What a transfer from an account leaves: the same wallet, and at most the question about the
account and a submission with the nonce of its answer, which the account has signed. -/
def Sent (setup : Setup) (account : Account) (before after : Console) : Prop :=
  after.wallet = before.wallet ∧
    (after.calls = before.calls ∨
      after.calls = before.calls ++ [.accountState account.address] ∨
      ∃ state transfer bytes, answer setup before account.address = .ok state ∧
        transfer.nonce = state.projectedNonce ∧ account.Signs transfer bytes ∧
        after.calls = before.calls ++ [.accountState account.address, .submit bytes])

def heading (setup : Setup) : String :=
  Text.Style.green.paint setup.isColored "Transaction submitted:"

def submitAndSay (setup : Setup) (transfer : Transfer) : ConsoleM Unit :=
  submit setup transfer >>= fun state => say (heading setup ++ " " ++ state.display)

def sendAll (setup : Setup) (console : Console) (texts : List String) : Console :=
  texts.foldl (fun console text => (run (accountSendCoin setup text) console).2) console

variable {setup : Setup} {console : Console} {account : Account} {text params : String}
  {request : TransferRequest} {state : AccountState}

theorem run_accountState_of_answer {address : Address} {result : Except NodeError AccountState}
    (h : answer setup console address = result) :
    run (accountState setup address) console = (result.mapError .node,
      { console with calls := console.calls ++ [.accountState address] }) := by
  rw [run_accountState, ← h]
  rfl

theorem sendText_unread {error : WalletError}
    (unread : TransferRequest.parse text setup.gasPrice setup.gasLimit = .error error) :
    run (sendText setup account text) console = (.error error, console) := by
  unfold sendText
  rw [unread, run_bind_of_error (run_lift (.error error) console)]

theorem sendText_unanswered {error : NodeError}
    (read : TransferRequest.parse text setup.gasPrice setup.gasLimit = .ok request)
    (unanswered : answer setup console account.address = .error error) :
    run (sendText setup account text) console = (.error (.node error),
      { console with calls := console.calls ++ [.accountState account.address] }) := by
  unfold sendText
  rw [read, run_bind_of_ok (run_lift (.ok request) console)]
  exact run_bind_of_error (run_accountState_of_answer unanswered)

theorem sendText_submits
    (read : TransferRequest.parse text setup.gasPrice setup.gasLimit = .ok request)
    (answered : answer setup console account.address = .ok state) :
    ∃ said, run (sendText setup account text) console =
      run (submitAndSay setup (request.transfer state.projectedNonce)) { console with
        calls := console.calls ++ [.accountState account.address]
        output := console.output ++ said } := by
  unfold sendText
  rw [read, run_bind_of_ok (run_lift (.ok request) console),
    run_bind_of_ok (run_accountState_of_answer answered)]
  dsimp only
  rw [run_bind_of_ok (run_say _ _)]
  exact ⟨_, rfl⟩

theorem sendText_answered (paired : account.Paired)
    (read : TransferRequest.parse text setup.gasPrice setup.gasLimit = .ok request)
    (answered : answer setup console account.address = .ok state)
    (current : console.wallet.currentAccount = .ok account) :
    ∃ signature result output,
      account.sign (request.transfer state.projectedNonce).encode = .ok signature ∧
      run (sendText setup account text) console = (result, { console with
        calls := console.calls ++ [.accountState account.address,
          .submit (SignedTransfer.encode ⟨request.transfer state.projectedNonce, signature⟩)]
        output := output }) := by
  obtain ⟨signature, signs⟩ :=
    Account.sign_of_paired paired (request.transfer state.projectedNonce).encode
  -- The signer is looked up after the question, which has left the wallet as it was.
  let asked := console.calls ++ [.accountState account.address]
  let signed : SignedTransfer := ⟨request.transfer state.projectedNonce, signature⟩
  obtain ⟨result, submitted⟩ := Wallet.submit_of_sign setup.node asked current signs
  have calls : asked ++ [.submit signed.encode] =
      console.calls ++ [.accountState account.address, .submit signed.encode] :=
    List.append_assoc _ _ _
  have sent : ∀ output, run (submit setup signed.transfer) { console with calls := asked, output } =
      (result, { console with
        calls := console.calls ++ [.accountState account.address, .submit signed.encode]
        output := output }) := by
    intro output
    rw [run_submit]
    dsimp only
    rw [submitted, ← calls]
  obtain ⟨said, ran⟩ := sendText_submits read answered
  rw [ran, submitAndSay]
  cases result with
  | error error => exact ⟨signature, _, _, signs, run_bind_of_error (sent _)⟩
  | ok submission => exact ⟨signature, _, _, signs, run_bind_of_ok (sent _)⟩

theorem sendText_sent (setup : Setup) (paired : account.Paired)
    (current : console.wallet.currentAccount = .ok account) (text : String) :
    Sent setup account console (run (sendText setup account text) console).2 := by
  cases read : TransferRequest.parse text setup.gasPrice setup.gasLimit with
  | error error =>
    rw [sendText_unread read]
    exact ⟨rfl, Or.inl rfl⟩
  | ok request =>
    cases answered : answer setup console account.address with
    | error error =>
      rw [sendText_unanswered read answered]
      exact ⟨rfl, Or.inr (Or.inl rfl)⟩
    | ok state =>
      obtain ⟨signature, result, output, signs, sent⟩ :=
        sendText_answered paired read answered current
      rw [sent]
      exact ⟨rfl, Or.inr (Or.inr ⟨state, _, _, answered, rfl, Account.signs_encode signs, rfl⟩)⟩

theorem run_accountSendCoin (current : console.wallet.currentAccount = .ok account)
    (params : String) : run (accountSendCoin setup params) console =
      run (transferText params >>= sendText setup account) console := by
  unfold accountSendCoin
  rw [run_bind_of_ok (run_currentOrChosen_of_current setup current)]

theorem accountSendCoin_sent (setup : Setup) (paired : account.Paired)
    (current : console.wallet.currentAccount = .ok account) (params : String) :
    Sent setup account console (run (accountSendCoin setup params) console).2 := by
  have quiet := quiet_transferText setup params console
  rw [run_accountSendCoin current, run_bind]
  cases typed : run (transferText params) console with
  | mk result next =>
    rw [typed] at quiet
    -- Prompts leave the wallet and the questions alone, so the node still answers the same.
    have sameWallet : next.wallet = console.wallet := congrArg Desk.wallet quiet
    have sameCalls : next.calls = console.calls := congrArg Desk.calls quiet
    cases result with
    | error error => exact ⟨sameWallet, Or.inl sameCalls⟩
    | ok text =>
      have sent := sendText_sent setup paired (sameWallet ▸ current) text
      unfold Sent answer at sent ⊢
      rw [sameWallet, sameCalls] at sent
      exact sent

theorem sendAll_wallet (paired : account.Paired)
    (current : console.wallet.currentAccount = .ok account) (texts : List String) :
    (sendAll setup console texts).wallet = console.wallet := by
  induction texts generalizing console with
  | nil => rfl
  | cons text texts ih =>
    have same := (accountSendCoin_sent setup paired current text).1
    exact (ih (same ▸ current)).trans same

/-- A transfer that was typed with its command is submitted exactly as it was asked for, signed by
the account that the node was asked about, and no transfer reuses an answer to an earlier one. -/
theorem send_submits_request (reachable : Reachable setup console)
    (current : console.wallet.currentAccount = .ok account) (given : params ≠ "") :
    (let sent := run (accountSendCoin setup params) console
    match TransferRequest.parse params setup.gasPrice setup.gasLimit with
    | .error error => sent.1 = .error error ∧ sent.2.calls = console.calls
    | .ok request =>
      match answer setup console account.address with
      | .error error =>
        sent.1 = .error (.node error) ∧
          sent.2.calls = console.calls ++ [.accountState account.address]
      | .ok state =>
        ∃ bytes,
          sent.2.calls = console.calls ++ [.accountState account.address, .submit bytes] ∧
          account.Signs {
            nonce := state.projectedNonce
            amount := request.amount
            recipient := request.recipient
            gasLimit := request.gasLimit
            gasPrice := request.gasPrice } bytes) ∧
    ∀ (earlier : List String) (text : String),
      let before := sendAll setup console earlier
      Sent setup account before (run (accountSendCoin setup text) before).2 := by
  have paired := reachable.paired current
  constructor
  · have typed : run (accountSendCoin setup params) console =
        run (sendText setup account params) console := by
      rw [run_accountSendCoin current, transferText, if_neg given]
      rfl
    rw [typed]
    cases read : TransferRequest.parse params setup.gasPrice setup.gasLimit with
    | error error =>
      rw [sendText_unread read]
      exact ⟨rfl, rfl⟩
    | ok request =>
      cases answered : answer setup console account.address with
      | error error =>
        rw [sendText_unanswered read answered]
        exact ⟨rfl, rfl⟩
      | ok state =>
        obtain ⟨signature, result, output, signs, sent⟩ :=
          sendText_answered paired read answered current
        rw [sent]
        exact ⟨_, rfl, Account.signs_encode signs⟩
  · intro earlier text before
    have same : before.wallet = console.wallet := sendAll_wallet paired current earlier
    exact accountSendCoin_sent setup paired (same ▸ current) text

/-- The first account of a wallet sends its first transfer, at the nonce that the node projects. -/
theorem first_transfer_submitted :
    let text := "0x4242424242424242424242424242424242424242 500 2"
    ∃ bytes,
      (run (accountSendCoin Sample.setup text) Sample.console).2.calls =
        [.accountState Sample.account.address, .submit bytes] ∧
      bytes.length = 116 ∧
      bytes.take 52 = [0, 0, 0, 0, 0, 0, 0, 7, 0, 0, 0, 0, 0, 0, 1, 244] ++ List.replicate 20 0x42 ++
        [0, 0, 0, 0, 0, 0, 0, 100, 0, 0, 0, 0, 0, 0, 0, 2] ∧
      ∃ signature, bytes.drop 52 = signature.bytes.toList ∧
        Ed25519.verify Sample.account.publicKey (bytes.take 52) signature = true := by
  intro text
  have read : TransferRequest.parse text 1 100 = .ok ⟨⟨.replicate 20 0x42⟩, 500, 2, 100⟩ :=
    ok_of_toOption (by decide +kernel)
  have asked : Sample.console.calls = [] := by decide +kernel
  obtain ⟨sent, -⟩ := send_submits_request reachable_sample currentAccount_sample
    (show text ≠ "" by decide)
  rw [show TransferRequest.parse text Sample.setup.gasPrice Sample.setup.gasLimit = _ from read]
    at sent
  dsimp only at sent
  rw [answer_sample, asked] at sent
  obtain ⟨bytes, calls, length, fields, signature, -, back, verifies⟩ := sent
  refine ⟨bytes, calls, length, ?_, signature, back, verifies⟩
  rw [fields.eq_encode]
  decide

end Console

end LedgerWallet
