import LedgerWallet.Console.Dialogue
import LedgerWallet.Proofs.Console.Course

namespace LedgerWallet.Console

variable {α β : Type} {setup : Setup} {effects : List Effect} {console next prompt last : Console}

/-- The action reads line by line. If more lines follow than it has come to, it ends as before and
leaves them; if it has stopped for want of a line, it goes on from there with the next one. -/
structure ReadsByLine (action : ConsoleM α) : Prop where
  ends : ∀ console lines,
    (run action console).2.input ≠ [] ∨ (run action console).1 ≠ .error .inputClosed →
      run action (console.followedBy lines) =
        ((run action console).1, (run action console).2.followedBy lines)
  resumes : ∀ console line, (run action console).1 = .error .inputClosed →
    let again := run action (console.followedBy [line])
    AddsText (run action console).2 again.2 ∧
      (again.1 = .error .inputClosed ∨ again.2.input = [])

def IgnoresInput (action : ConsoleM α) : Prop :=
  ∀ console input, run action { console with input } =
    ((run action console).1, { (run action console).2 with input })

theorem IgnoresInput.followedBy {action : ConsoleM α} (h : IgnoresInput action)
    (console : Console) (lines : List ByteString) :
    run action (console.followedBy lines) =
      ((run action console).1, (run action console).2.followedBy lines) := by
  have kept : (run action console).2.input = console.input :=
    congrArg (fun ended => ended.2.input) (h console console.input)
  rw [Console.followedBy, Console.followedBy, h console, kept]

theorem IgnoresInput.readsByLine {action : ConsoleM α} (h : IgnoresInput action) :
    ReadsByLine action where
  ends console lines _ := h.followedBy console lines
  resumes console line closed := by
    rw [h.followedBy]
    exact ⟨.of_eq rfl, Or.inl closed⟩

theorem ignoresInput_lift (result : Except WalletError α) : IgnoresInput (liftM result) := by
  intro console input
  rw [run_lift, run_lift]

theorem ignoresInput_createAccount (name : String) : IgnoresInput (createAccount name) := by
  intro console input
  rw [run_createAccount, run_createAccount]
  dsimp only
  cases console.wallet.create console.seeds name <;> rfl

theorem ignoresInput_selectAccount (selector : Selector) :
    IgnoresInput (selectAccount selector) := by
  intro console input
  rw [run_selectAccount, run_selectAccount]
  dsimp only
  cases console.wallet.select selector <;> rfl

theorem ignoresInput_persist : IgnoresInput persist := by
  intro console input
  rw [run_persist, run_persist]

theorem firstAnswer_followed (prompt : String) (lines more : List ByteString) (output : String)
    (enough : (firstAnswer prompt lines output).2.1 ≠ [] ∨
      (firstAnswer prompt lines output).1 ≠ .error .inputClosed) :
    firstAnswer prompt (lines ++ more) output =
      ((firstAnswer prompt lines output).1, (firstAnswer prompt lines output).2.1 ++ more,
        (firstAnswer prompt lines output).2.2) := by
  induction lines generalizing output with
  | nil => rcases enough with none | closed <;> contradiction
  | cons line rest ih =>
    rw [firstAnswer] at enough
    rw [List.cons_append, firstAnswer, firstAnswer]
    cases read : textOfLine line with
    | error error => rfl
    | ok text =>
      rw [read] at enough
      dsimp only at enough ⊢
      split
      · rename_i blank
        rw [if_pos blank] at enough
        exact ih _ enough
      · rfl

theorem firstAnswer_resumed (prompt : String) (lines : List ByteString) (line : ByteString)
    (output : String) (closed : (firstAnswer prompt lines output).1 = .error .inputClosed) :
    let again := firstAnswer prompt (lines ++ [line]) output
    (∃ more, again.2.2 = (firstAnswer prompt lines output).2.2 ++ more) ∧
      (again.1 = .error .inputClosed ∨ again.2.1 = []) := by
  induction lines generalizing output with
  | nil =>
    have stays : ∃ more, output ++ prompt = output ++ prompt ++ more :=
      ⟨"", String.append_empty.symm⟩
    simp only [List.nil_append, firstAnswer]
    cases textOfLine line with
    | error error => exact ⟨stays, Or.inr rfl⟩
    | ok text =>
      dsimp only
      split
      · exact ⟨⟨prompt, rfl⟩, Or.inl rfl⟩
      · exact ⟨stays, Or.inr rfl⟩
  | cons first rest ih =>
    rw [firstAnswer] at closed
    rw [List.cons_append, firstAnswer, firstAnswer]
    cases read : textOfLine first with
    | error error =>
      rw [read] at closed
      cases (textOfLine_error read).2
      cases closed
    | ok text =>
      rw [read] at closed
      dsimp only at closed ⊢
      split
      · rename_i blank
        rw [if_pos blank] at closed
        exact ih _ closed
      · rename_i visible
        rw [if_neg visible] at closed
        cases closed

theorem readsByLine_ask (question : String) : ReadsByLine (ask question) where
  ends console lines enough := by
    rw [run_ask] at enough
    have same := firstAnswer_followed ("> " ++ question ++ ": ") console.input lines console.output
      enough
    rw [run_ask, run_ask, followedBy, same]
    rfl
  resumes console line closed :=
    firstAnswer_resumed ("> " ++ question ++ ": ") console.input line console.output closed

theorem readsByLine_bind {action : ConsoleM α} {rest : α → ConsoleM β}
    (first : ReadsByLine action) (later : ∀ a, ReadsByLine (rest a))
    (readsOn : ∀ a, ReadsOn (rest a)) (adds : ∀ a console, AddsText console (run (rest a) console).2) :
    ReadsByLine (action >>= rest) where
  ends console lines enough := by
    have same := first.ends console lines
    rw [run_bind] at enough ⊢
    rw [run_bind]
    cases done : run action console with
    | mk result next =>
      rw [done] at enough same
      cases result with
      | error error => rw [same (by simpa using enough)]
      | ok a =>
        rw [same (Or.inr (by simp))]
        exact (later a).ends next lines enough
  resumes console line closed := by
    have resumed := first.resumes console line
    have same := first.ends console [line]
    rw [run_bind] at closed
    rw [run_bind, run_bind]
    cases done : run action console with
    | mk result next =>
      rw [done] at closed resumed same
      cases result with
      | ok a =>
        rw [same (Or.inr (by simp))]
        exact (later a).resumes next line closed
      | error error =>
        obtain ⟨printed, ended⟩ := resumed (by simpa using closed)
        cases again : run action (console.followedBy [line]) with
        | mk result' next' =>
          rw [again] at printed ended
          cases result' with
          | error error' => exact ⟨printed, by simpa using ended⟩
          | ok a =>
            -- The line that was wanting is used up, and no later action finds another one.
            have none : next'.input = [] := ended.resolve_left (by simp)
            have left := readsOn a next'
            rw [none, List.suffix_nil] at left
            exact ⟨printed.trans (adds a next'), Or.inr left⟩

theorem Confined.readsByLine {action : ConsoleM α} (h : Confined setup effects action) :
    ReadsByLine action := by
  induction h with
  | pure a => exact IgnoresInput.readsByLine fun _ _ => rfl
  | lift result => exact (ignoresInput_lift result).readsByLine
  | write text => exact IgnoresInput.readsByLine fun _ _ => rfl
  | current =>
    apply IgnoresInput.readsByLine
    intro console input
    rw [run_attempt, run_attempt, run_currentAccount, run_currentAccount]
  | @look _ rest same later ih =>
    have looks (console : Console) (lines : List ByteString) :
        run (get >>= rest) (console.followedBy lines) =
          run (rest console) (console.followedBy lines) := by
      rw [run_get_bind, same (console.followedBy lines) console rfl]
    constructor
    · intro console lines enough
      rw [looks, run_get_bind]
      exact (ih console).ends console lines enough
    · intro console line closed
      rw [looks, run_get_bind]
      exact (ih console).resumes console line closed
  | bind first later ih ihLater =>
    exact readsByLine_bind ih ihLater (fun a => (later a).readsOn) fun a => (later a).addsText
  | ask allowed question => exact readsByLine_ask question
  | @record _ rest allowed name later ih =>
    have saved (account : Account) : ReadsByLine (persist >>= fun _ => rest account) :=
      readsByLine_bind ignoresInput_persist.readsByLine (fun _ => ih account)
        (fun _ => (later account).readsOn) fun _ => (later account).addsText
    refine readsByLine_bind (ignoresInput_createAccount name).readsByLine saved ?_ ?_
    · exact fun account => readsOn_bind readsOn_persist fun _ => (later account).readsOn
    · have stored (console : Console) : Step setup effects console (run persist console).2 :=
        .saved allowed
      exact fun account => across_bind (R := AddsText) AddsText.trans
        (fun console => (stored console).addsText) fun _ => (later account).addsText
  | select allowed selector => exact (ignoresInput_selectAccount selector).readsByLine
  | accountState allowed address =>
    apply IgnoresInput.readsByLine
    intro console input
    rw [run_accountState, run_accountState]
  | transactionState allowed id =>
    apply IgnoresInput.readsByLine
    intro console input
    rw [run_transactionState, run_transactionState]
  | submit allowed transfer =>
    apply IgnoresInput.readsByLine
    intro console input
    rw [run_submit, run_submit]

theorem input_followedBy {line : ByteString} {rest : List ByteString}
    (input : console.input = line :: rest) (lines : List ByteString) :
    (console.followedBy lines).input = line :: (rest ++ lines) := by
  rw [followedBy, input]
  rfl

theorem execute_followedBy {rest : List ByteString} {text : String}
    {result : Except WalletError Flow}
    (executed : run (execute setup text) { console.prompted with input := rest } = (result, next))
    (enough : next.input ≠ [] ∨ result ≠ .error .inputClosed) (lines : List ByteString) :
    run (execute setup text) { (console.followedBy lines).prompted with input := rest ++ lines } =
      (result, next.followedBy lines) := by
  have reads : ReadsByLine (execute setup text) := (confined_execute text).readsByLine
  have same := reads.ends { console.prompted with input := rest } lines
  rw [executed] at same
  exact same enough

def Suffices (setup : Setup) (prompt : Console) : Prop := Dialogue.pending? setup prompt = none

theorem ne_inputClosed_of_suffices {line : ByteString} {rest : List ByteString} {text : String}
    {result : Except WalletError Flow} (enough : Suffices setup console)
    (input : console.input = line :: rest) (read : textOfLine line = .ok text)
    (executed : run (execute setup text) { console.prompted with input := rest } = (result, next)) :
    result ≠ .error .inputClosed := by
  rintro rfl
  have stops : run (execute setup text)
      { console with input := rest, output := console.output ++ "$ " } = (_, next) := executed
  simp only [Suffices, Dialogue.pending?, input, read, stops] at enough
  cases enough

theorem Turn.followedBy (turn : Turn setup console next)
    (enough : next.input ≠ [] ∨ Suffices setup console) (lines : List ByteString) :
    Turn setup (console.followedBy lines) (next.followedBy lines) := by
  cases turn with
  | blank input read => exact .blank (input_followedBy input lines) read
  | done input read visible executed =>
    exact .done (input_followedBy input lines) read visible
      (execute_followedBy executed (Or.inr (by simp)) lines)
  | failed input read visible executed =>
    exact .failed (input_followedBy input lines) read visible
      (execute_followedBy executed
        (enough.imp_right fun enough => ne_inputClosed_of_suffices enough input read executed) lines)

theorem Stop.followedBy {result : Except WalletError Unit} (stop : Stop setup console result last)
    (some : console.input ≠ []) (lines : List ByteString) :
    Stop setup (console.followedBy lines) result (last.followedBy lines) := by
  cases stop with
  | closed input => exact absurd input some
  | quit input read visible executed =>
    exact .quit (input_followedBy input lines) read visible
      (execute_followedBy executed (Or.inr (by simp)) lines)
  | unreadable input broken => exact .unreadable (input_followedBy input lines) broken

theorem turns_followedBy (turns : Relation.ReflTransGen (Turn setup) console prompt)
    (left : prompt.input ≠ []) (lines : List ByteString) :
    Relation.ReflTransGen (Turn setup) (console.followedBy lines) (prompt.followedBy lines) := by
  induction turns with
  | refl => exact .refl
  | tail _ turn ih =>
    obtain ⟨line, rest, input, -⟩ := turn.reads
    exact .tail (ih (by rw [input]; exact List.cons_ne_nil _ _)) (turn.followedBy (Or.inl left) lines)

end LedgerWallet.Console
