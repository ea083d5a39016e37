import Mathlib.Logic.Relation
import LedgerWallet.Proofs.Console.Lines

namespace LedgerWallet

open Text

variable {α β : Type}

theorem exists_text_of_mem_splitLines {text : String} {line : ByteString}
    (member : line ∈ splitLines (Utf8.encode text)) : ∃ piece, Utf8.decode? line = some piece := by
  -- The induction is on the length of the text: behind the first line break stands a shorter one.
  induction size : text.toList.length using Nat.strongRecOn generalizing text with
  | ind n ih =>
    by_cases broken : '\n' ∈ text.toList
    · obtain ⟨front, rest, whole, unbroken⟩ := List.eq_append_cons_of_mem broken
      have parts : text = String.ofList front ++ "\n" ++ String.ofList rest := by
        rw [← String.toList_inj, whole]
        simp
      have shorter : (String.ofList rest).toList.length < n := by
        rw [← size, whole, String.toList_ofList, List.length_append, List.length_cons]
        omega
      rw [parts, Utf8.encode_append, Console.splitLines_typed (by simpa using unbroken)] at member
      rcases List.mem_cons.1 member with rfl | later
      · exact ⟨_, Utf8.decode?_encode _⟩
      · exact ih _ shorter later rfl
    · have unbroken := Utf8.no_lineBreak_encode broken
      cases bytes : Utf8.encode text with
      | nil =>
        rw [bytes] at member
        cases member
      | cons byte rest =>
        rw [bytes] at member unbroken
        rw [splitLines_unbroken unbroken, ← bytes] at member
        obtain rfl := List.mem_singleton.1 member
        exact ⟨text, Utf8.decode?_encode text⟩

namespace Console

variable {setup : Setup} {effects : List Effect} {console next : Console} {line : ByteString}
  {lines rest : List ByteString}

theorem textOfLine_error {error : WalletError} (h : textOfLine line = .error error) :
    Utf8.decode? line = none ∧ error = .file .notText := by
  unfold textOfLine at h
  split at h
  · cases h
  · rename_i broken
    cases h
    exact ⟨broken, rfl⟩

/-- What a question takes of the lines: blank ones, and then the answer, a line that is not text, or
the end of the input. -/
inductive Asked : List ByteString → Except WalletError String → List ByteString → Prop
  | answered {blanks : List ByteString} {line : ByteString} {rest : List ByteString} {text : String}
      (blank : ∀ line ∈ blanks, textOfLine line = .ok "") (read : textOfLine line = .ok text)
      (visible : text ≠ "") : Asked (blanks ++ line :: rest) (.ok text) rest
  | unreadable {blanks : List ByteString} {line : ByteString} {rest : List ByteString}
      (blank : ∀ line ∈ blanks, textOfLine line = .ok "") (broken : Utf8.decode? line = none) :
      Asked (blanks ++ line :: rest) (.error (.file .notText)) rest
  | closed {blanks : List ByteString} (blank : ∀ line ∈ blanks, textOfLine line = .ok "") :
      Asked blanks (.error .inputClosed) []

theorem Asked.behind {result : Except WalletError String} (h : Asked lines result rest)
    (empty : textOfLine line = .ok "") : Asked (line :: lines) result rest := by
  cases h with
  | answered blank read visible =>
    exact .answered (List.forall_mem_cons.2 ⟨empty, blank⟩) read visible
  | unreadable blank broken => exact .unreadable (List.forall_mem_cons.2 ⟨empty, blank⟩) broken
  | closed blank => exact .closed (List.forall_mem_cons.2 ⟨empty, blank⟩)

theorem Asked.suffix {result : Except WalletError String} (h : Asked lines result rest) :
    rest <:+ lines := by
  cases h with
  | answered => exact (List.suffix_cons _ _).trans (List.suffix_append _ _)
  | unreadable => exact (List.suffix_cons _ _).trans (List.suffix_append _ _)
  | closed => exact List.nil_suffix

theorem firstAnswer_asked (prompt : String) (lines : List ByteString) (output : String) :
    Asked lines (firstAnswer prompt lines output).1 (firstAnswer prompt lines output).2.1 := by
  have none : ∀ line ∈ ([] : List ByteString), textOfLine line = .ok "" := by simp
  induction lines generalizing output with
  | nil => exact .closed none
  | cons line rest ih =>
    unfold firstAnswer
    cases read : textOfLine line with
    | error error =>
      obtain ⟨broken, rfl⟩ := textOfLine_error read
      exact .unreadable none broken
    | ok text =>
      dsimp only
      split
      · rename_i empty
        exact (ih _).behind (empty ▸ read)
      · rename_i visible
        exact .answered none read visible

theorem asked_ask (question : String) (console : Console) :
    Asked console.input (run (ask question) console).1 (run (ask question) console).2.input :=
  firstAnswer_asked _ console.input console.output

def ReadsOn (action : ConsoleM α) : Prop :=
  ∀ console, (run action console).2.input <:+ console.input

theorem readsOn_bind {action : ConsoleM α} {rest : α → ConsoleM β} (first : ReadsOn action)
    (later : ∀ a, ReadsOn (rest a)) : ReadsOn (action >>= rest) :=
  across_bind (R := fun console next => next.input <:+ console.input)
    (fun first later => later.trans first) first later

theorem suffix_of_kept (kept : next.input = console.input) : next.input <:+ console.input :=
  kept ▸ List.suffix_rfl

theorem readsOn_persist : ReadsOn persist := by
  intro console
  apply suffix_of_kept
  rw [run_persist]

theorem Step.readsOn (h : Step setup effects console next) : next.input <:+ console.input := by
  cases h with
  | printed text => exact suffix_of_kept rfl
  | asked allowed question => exact (asked_ask question console).suffix
  | created allowed name =>
    apply suffix_of_kept
    rw [run_createAccount]
    cases console.wallet.create console.seeds name <;> rfl
  | saved allowed => exact readsOn_persist console
  | selected allowed selector =>
    apply suffix_of_kept
    rw [run_selectAccount]
    cases console.wallet.select selector <;> rfl
  | accountState allowed address =>
    apply suffix_of_kept
    rw [run_accountState]
  | transactionState allowed id =>
    apply suffix_of_kept
    rw [run_transactionState]
  | submitted allowed transfer =>
    apply suffix_of_kept
    rw [run_submit]

theorem Confined.readsOn {action : ConsoleM α} (h : Confined setup effects action) :
    ReadsOn action :=
  h.across (R := fun console next => next.input <:+ console.input) (fun _ => List.suffix_rfl)
    (fun first later => later.trans first) Step.readsOn

def prompted (console : Console) : Console :=
  { console with output := console.output ++ "$ " }

def reporting (setup : Setup) (error : WalletError) (console : Console) : Console :=
  { console with output := console.output ++
      ("> " ++ Text.Style.red.paint setup.isColored error.message ++ "\n") }

/-- One line, up to the next prompt. -/
inductive Turn (setup : Setup) (console : Console) : Console → Prop
  | blank {line : ByteString} {rest : List ByteString} (input : console.input = line :: rest)
      (read : textOfLine line = .ok "") : Turn setup console { console.prompted with input := rest }
  | done {line : ByteString} {rest : List ByteString} {text : String} {next : Console}
      (input : console.input = line :: rest) (read : textOfLine line = .ok text)
      (visible : text ≠ "")
      (executed : run (execute setup text) { console.prompted with input := rest } =
        (.ok .goOn, next)) : Turn setup console next
  | failed {line : ByteString} {rest : List ByteString} {text : String} {error : WalletError}
      {next : Console} (input : console.input = line :: rest) (read : textOfLine line = .ok text)
      (visible : text ≠ "")
      (executed : run (execute setup text) { console.prompted with input := rest } =
        (.error error, next)) : Turn setup console (next.reporting setup error)

/-- The last prompt: what the session ends with, and the console then. -/
inductive Stop (setup : Setup) (console : Console) : Except WalletError Unit → Console → Prop
  | closed (input : console.input = []) : Stop setup console (.ok ()) console.prompted
  | quit {line : ByteString} {rest : List ByteString} {text : String} {next : Console}
      (input : console.input = line :: rest) (read : textOfLine line = .ok text)
      (visible : text ≠ "")
      (executed : run (execute setup text) { console.prompted with input := rest } =
        (.ok .quit, next)) : Stop setup console (.ok ()) next
  | unreadable {line : ByteString} {rest : List ByteString} (input : console.input = line :: rest)
      (broken : Utf8.decode? line = none) :
      Stop setup console (.error (.file .notText)) { console.prompted with input := rest }

theorem Turn.reads (turn : Turn setup console next) :
    ∃ line, ∃ rest, console.input = line :: rest ∧ next.input <:+ rest := by
  have readsOn (text : String) : ReadsOn (execute setup text) := (confined_execute text).readsOn
  cases turn with
  | blank input read => exact ⟨_, _, input, List.suffix_refl _⟩
  | @done line rest text _ input read visible executed =>
    have left := readsOn text { console.prompted with input := rest }
    rw [executed] at left
    exact ⟨line, rest, input, left⟩
  | @failed line rest text error next input read visible executed =>
    have left := readsOn text { console.prompted with input := rest }
    rw [executed] at left
    exact ⟨line, rest, input, left⟩

theorem Turn.shorter (turn : Turn setup console next) :
    next.input.length < console.input.length := by
  obtain ⟨line, rest, input, left⟩ := turn.reads
  have most := left.length_le
  rw [input, List.length_cons]
  omega

theorem input_suffix_of_turns (turns : Relation.ReflTransGen (Turn setup) console next) :
    next.input <:+ console.input := by
  induction turns with
  | refl => exact List.suffix_refl _
  | tail _ turn ih =>
    obtain ⟨line, rest, input, left⟩ := turn.reads
    rw [input] at ih
    exact (left.trans (List.suffix_cons _ _)).trans ih

theorem executeAndReport_of_ok {text : String} {flow : Flow}
    (executed : run (execute setup text) console = (.ok flow, next)) :
    run (executeAndReport setup text) console = (.ok flow, next) := by
  rw [executeAndReport, run_bind, run_attempt, executed]
  rfl

theorem executeAndReport_of_error {text : String} {error : WalletError}
    (executed : run (execute setup text) console = (.error error, next)) :
    run (executeAndReport setup text) console = (.ok .goOn, next.reporting setup error) := by
  rw [executeAndReport, run_bind, run_attempt, executed]
  rfl

theorem Turn.run_loop (turn : Turn setup console next) (count : Nat) :
    run (loop setup (count + 1)) console = run (loop setup count) next := by
  cases turn with
  | blank input read =>
    rw [run_loop_of_line setup input read, if_pos rfl]
    rfl
  | done input read visible executed =>
    rw [run_loop_of_line setup input read, if_neg visible]
    exact run_bind_of_ok (executeAndReport_of_ok executed)
  | failed input read visible executed =>
    rw [run_loop_of_line setup input read, if_neg visible]
    exact run_bind_of_ok (executeAndReport_of_error executed)

theorem Stop.run_loop {result : Except WalletError Unit} {last : Console}
    (stop : Stop setup console result last) (count : Nat) :
    run (loop setup (count + 1)) console = (result.map fun _ => true, last) := by
  have prompt : run (write "$ ") console = (.ok (), console.prompted) := rfl
  have taken := run_readLine console.prompted
  cases stop with
  | closed input =>
    rw [show console.prompted.input = [] from input] at taken
    rw [loop, run_bind_of_ok prompt, run_bind_of_ok taken]
    rfl
  | quit input read visible executed =>
    rw [run_loop_of_line setup input read, if_neg visible]
    exact run_bind_of_ok (executeAndReport_of_ok executed)
  | @unreadable line rest input broken =>
    have unread : textOfLine line = .error (.file .notText) := by rw [textOfLine, broken]
    rw [show console.prompted.input = line :: rest from input] at taken
    simp only [unread] at taken
    rw [loop, run_bind_of_ok prompt, run_bind_of_error taken]
    rfl

theorem turn_or_stop (setup : Setup) (console : Console) :
    (∃ next, Turn setup console next) ∨ ∃ result last, Stop setup console result last := by
  cases input : console.input with
  | nil => exact Or.inr ⟨_, _, .closed input⟩
  | cons line rest =>
    cases read : textOfLine line with
    | error error => exact Or.inr ⟨_, _, .unreadable input (textOfLine_error read).1⟩
    | ok text =>
      by_cases visible : text = ""
      · exact Or.inl ⟨_, .blank input (visible ▸ read)⟩
      · cases executed : run (execute setup text) { console.prompted with input := rest } with
        | mk result next =>
          match result with
          | .error error => exact Or.inl ⟨_, .failed input read visible executed⟩
          | .ok .goOn => exact Or.inl ⟨_, .done input read visible executed⟩
          | .ok .quit => exact Or.inr ⟨_, _, .quit input read visible executed⟩

theorem exists_stop (setup : Setup) (console : Console) :
    ∃ prompt result last, Relation.ReflTransGen (Turn setup) console prompt ∧
      Stop setup prompt result last := by
  induction left : console.input.length using Nat.strongRecOn generalizing console with
  | ind n ih =>
    rcases turn_or_stop setup console with ⟨next, turn⟩ | ⟨result, last, stop⟩
    · obtain ⟨prompt, result, last, turns, stop⟩ := ih _ (left ▸ turn.shorter) next rfl
      exact ⟨prompt, result, last, .head turn turns, stop⟩
    · exact ⟨console, result, last, .refl, stop⟩

theorem run_loop_of_turns {prompt last : Console} {result : Except WalletError Unit}
    (turns : Relation.ReflTransGen (Turn setup) console prompt)
    (stop : Stop setup prompt result last) {count : Nat} (enough : console.input.length < count) :
    run (loop setup count) console = (result.map fun _ => true, last) := by
  induction turns using Relation.ReflTransGen.head_induction_on generalizing count with
  | refl =>
    cases count with
    | zero => omega
    | succ count => exact stop.run_loop count
  | head turn _ ih =>
    cases count with
    | zero => omega
    | succ count =>
      have shorter := turn.shorter
      rw [turn.run_loop]
      exact ih (by omega)

theorem run_session_of_turns {prompt last : Console} {result : Except WalletError Unit}
    (turns : Relation.ReflTransGen (Turn setup) (run (welcome setup) console).2 prompt)
    (stop : Stop setup prompt result last) : run (session setup) console = (result, last) := by
  have greeted : run (welcome setup) console = (.ok (), (run (welcome setup) console).2) := rfl
  have ended := run_loop_of_turns turns stop (Nat.lt_succ_self _)
  rw [session, run_bind_of_ok greeted, run_get_bind]
  cases result with
  | error error => exact run_bind_of_error ended
  | ok done => exact run_bind_of_ok ended

theorem session_stops (setup : Setup) (console : Console) :
    ∃ prompt, Relation.ReflTransGen (Turn setup) (run (welcome setup) console).2 prompt ∧
      Stop setup prompt (run (session setup) console).1 (run (session setup) console).2 := by
  obtain ⟨prompt, result, last, turns, stop⟩ := exists_stop setup (run (welcome setup) console).2
  rw [run_session_of_turns turns stop]
  exact ⟨prompt, turns, stop⟩

/-- A session goes from prompt to prompt and never for ever: every line takes it nearer to the end
of its input, and so does every question. It ends well unless a line at the prompt is not text,
whatever its commands came to, and so it ends well if the whole input is text. -/
theorem session_ends (setup : Setup) (console : Console) :
    let greeted := (run (welcome setup) console).2
    let ended := run (session setup) console
    (∃ prompt, Relation.ReflTransGen (Turn setup) greeted prompt ∧
        Stop setup prompt ended.1 ended.2) ∧
      WellFounded (fun next console => Turn setup console next) ∧
      (∀ question console, Asked console.input (run (ask question) console).1
        (run (ask question) console).2.input) ∧
      (ended.1 = .ok () ∨ ended.1 = .error (.file .notText) ∧
        ∃ prompt line rest, Relation.ReflTransGen (Turn setup) greeted prompt ∧
          prompt.input = line :: rest ∧ Utf8.decode? line = none) ∧
      ∀ text, (run (session setup)
        { console with input := splitLines (Utf8.encode text) }).1 = .ok () := by
  intro greeted ended
  have ends : ∀ console, (run (session setup) console).1 = .ok () ∨
      (run (session setup) console).1 = .error (.file .notText) ∧
        ∃ prompt line rest,
          Relation.ReflTransGen (Turn setup) (run (welcome setup) console).2 prompt ∧
            prompt.input = line :: rest ∧ Utf8.decode? line = none := by
    intro console
    obtain ⟨prompt, turns, stop⟩ := session_stops setup console
    revert stop
    generalize run (session setup) console = ended
    obtain ⟨result, last⟩ := ended
    intro stop
    cases stop with
    | closed input => exact Or.inl rfl
    | quit input read visible executed => exact Or.inl rfl
    | unreadable input broken => exact Or.inr ⟨rfl, prompt, _, _, turns, input, broken⟩
  have falls : WellFounded (fun next console => Turn setup console next) :=
    Subrelation.wf Turn.shorter (measure fun console : Console => console.input.length).wf
  refine ⟨session_stops setup console, falls, asked_ask, ends console, fun text => ?_⟩
  rcases ends { console with input := splitLines (Utf8.encode text) } with
    well | ⟨-, prompt, line, rest, turns, input, broken⟩
  · exact well
  · have left : prompt.input <:+ splitLines (Utf8.encode text) := input_suffix_of_turns turns
    have member : line ∈ splitLines (Utf8.encode text) :=
      left.subset (input ▸ List.mem_cons_self)
    obtain ⟨piece, decoded⟩ := exists_text_of_mem_splitLines member
    rw [broken] at decoded
    cases decoded

end Console

end LedgerWallet
