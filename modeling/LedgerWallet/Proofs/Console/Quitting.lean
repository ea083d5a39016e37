import LedgerWallet.Proofs.Console.Dispatch
import LedgerWallet.Proofs.Console.Resuming

namespace LedgerWallet

theorem splitLines_ne_nil (byte : UInt8) (rest : ByteString) : splitLines (byte :: rest) ≠ [] := by
  rw [splitLines]
  split
  · exact List.cons_ne_nil _ _
  · split <;> exact List.cons_ne_nil _ _

theorem splitLines_append {front : ByteString} (broken : front.getLast? = some 10)
    (rest : ByteString) : splitLines (front ++ rest) = splitLines front ++ splitLines rest := by
  induction front with
  | nil => cases broken
  | cons byte front ih =>
    cases front with
    | nil =>
      obtain rfl : byte = 10 := by simpa using broken
      rfl
    | cons next front =>
      have later := ih (by simpa using broken)
      rw [List.cons_append, splitLines, splitLines, later]
      split
      · rfl
      · cases lines : splitLines (next :: front) with
        | nil => exact absurd lines (splitLines_ne_nil next front)
        | cons line lines => rfl

namespace Console

variable {setup : Setup} {console prompt : Console}

def SaysQuit (text : String) : Prop :=
  ∃ command params, Command.dispatch text = some (command, params) ∧ command.action = .quit

def QuitsAt (prompt : Console) (rest : List ByteString) : Prop :=
  ∃ line text, prompt.input = line :: rest ∧ textOfLine line = .ok text ∧ SaysQuit text

theorem QuitsAt.stop {rest : List ByteString} (h : prompt.QuitsAt rest) :
    Stop setup prompt (.ok ()) { prompt.prompted with input := rest } := by
  obtain ⟨line, text, input, read, command, params, dispatched, quits⟩ := h
  have visible : text ≠ "" := by
    rintro rfl
    have none : Command.dispatch "" = none := by decide +kernel
    rw [none] at dispatched
    cases dispatched
  refine .quit input read visible ?_
  rw [execute, dispatched]
  dsimp only
  rw [quits]
  rfl

theorem QuitsAt.followedBy {rest : List ByteString} (h : prompt.QuitsAt rest)
    (lines : List ByteString) : (prompt.followedBy lines).QuitsAt (rest ++ lines) := by
  obtain ⟨line, text, input, read, quits⟩ := h
  refine ⟨line, text, ?_, read, quits⟩
  rw [Console.followedBy, input]
  rfl

theorem perform_ne_quit {action : Action} (other : action ≠ .quit) (params : String)
    (console : Console) : (run (perform setup action params) console).1 ≠ .ok .quit := by
  have goOn (action : ConsoleM Unit) :
      (run (action >>= fun _ => pure Flow.goOn) console).1 ≠ .ok .quit := by
    rw [run_goOn]
    cases (run action console).1 <;> simp [Except.map]
  cases action with
  | quit => exact absurd rfl other
  | _ => exact goOn _

theorem saysQuit_of_execute {text : String}
    (executed : (run (execute setup text) console).1 = .ok .quit) : SaysQuit text := by
  rw [execute] at executed
  cases dispatched : Command.dispatch text with
  | none =>
    rw [dispatched] at executed
    cases executed
  | some found =>
    obtain ⟨command, params⟩ := found
    rw [dispatched] at executed
    refine ⟨command, params, dispatched, ?_⟩
    by_contra other
    exact perform_ne_quit other params console executed

theorem turn_of_not_saysQuit {line : ByteString} {rest : List ByteString} {text : String}
    (input : console.input = line :: rest) (read : textOfLine line = .ok text)
    (other : ¬ SaysQuit text) :
    ∃ next, Turn setup console next ∧ next.input <:+ rest := by
  rcases turn_or_stop setup console with ⟨next, turn⟩ | ⟨result, last, stop⟩
  · obtain ⟨line', rest', input', left⟩ := turn.reads
    rw [input] at input'
    cases input'
    exact ⟨next, turn, left⟩
  · exfalso
    cases stop with
    | closed input' =>
      rw [input] at input'
      cases input'
    | quit input' read' visible executed =>
      rw [input] at input'
      cases input'
      rw [read] at read'
      cases read'
      exact other (saysQuit_of_execute (congrArg Prod.fst executed))
    | unreadable input' broken =>
      rw [input] at input'
      cases input'
      rw [textOfLine, broken] at read
      cases read

def reading (console : Console) (bytes : ByteString) : Console :=
  { console with input := splitLines bytes }

/-- A session that stops because a line at its prompt says to quit stops there whatever follows in
the input, with the same result and in the same state. Only at the prompt does such a line stop a
session: any other line is followed by another prompt, whatever lines its command has asked for,
and to a question `quit` is an answer like others. -/
theorem nothing_after_quit (setup : Setup) (console : Console) :
    (∀ front rest prompt left, front.getLast? = some 10 →
      Relation.ReflTransGen (Turn setup) (run (welcome setup) (console.reading front)).2 prompt →
      prompt.QuitsAt left →
        let short := run (session setup) (console.reading front)
        short = (.ok (), { prompt.prompted with input := left }) ∧
          run (session setup) (console.reading (front ++ rest)) =
            (short.1, short.2.followedBy (splitLines rest))) ∧
    (∀ prompt line rest text,
      Relation.ReflTransGen (Turn setup) (run (welcome setup) console).2 prompt →
      prompt.input = line :: rest → textOfLine line = .ok text → ¬ SaysQuit text →
        ∃ asked next last, asked ++ next.input = rest ∧ Turn setup prompt next ∧
          Relation.ReflTransGen (Turn setup) next last ∧
          Stop setup last (run (session setup) console).1 (run (session setup) console).2) ∧
    ∀ question line rest, console.input = line :: rest → textOfLine line = .ok "quit" →
      ∃ output, run (ask question) console = (.ok "quit", { console with input := rest, output }) := by
  refine ⟨?_, ?_, ?_⟩
  · intro front rest prompt left broken turns quits short
    have ended : short = (.ok (), { prompt.prompted with input := left }) :=
      run_session_of_turns turns quits.stop
    refine ⟨ended, ?_⟩
    have some : prompt.input ≠ [] := by
      obtain ⟨line, text, input, -⟩ := quits
      rw [input]
      exact List.cons_ne_nil _ _
    have longer : console.reading (front ++ rest) =
        (console.reading front).followedBy (splitLines rest) := by
      rw [reading, splitLines_append broken]
      rfl
    rw [ended, longer]
    exact run_session_of_turns (turns_followedBy turns some _) (quits.followedBy _).stop
  · intro prompt line rest text turns input read other
    obtain ⟨next, turn, left⟩ : ∃ next, Turn setup prompt next ∧ next.input <:+ rest :=
      turn_of_not_saysQuit input read other
    obtain ⟨asked, parts⟩ := left
    obtain ⟨last, result, stopped, later, stop⟩ := exists_stop setup next
    have ended := run_session_of_turns (turns.trans (.head turn later)) stop
    rw [ended]
    exact ⟨asked, next, last, parts, turn, later, stop⟩
  · intro question line rest input read
    refine ⟨console.output ++ ("> " ++ question ++ ": "), ?_⟩
    rw [run_ask, input, firstAnswer, read]
    rfl

/-- The first `quit` is the answer to a question and becomes the name of an account; behind the
second one a line that is no text and another command are not read any more. -/
theorem quit_as_name_then_quit :
    let opened := Sample.opened .empty
    let front := Utf8.encode "account-new\nquit\nquit\n"
    let rest := 0xff :: Utf8.encode "\naccount-new never\n"
    let short := run (session Sample.setup) (opened.reading front)
    short.2.wallet.store.names = ["quit"] ∧
      run (session Sample.setup) (opened.reading (front ++ rest)) =
        (short.1, short.2.followedBy (splitLines rest)) ∧
      ∃ asked next last, asked ++ next.input = [Utf8.encode "quit\n", Utf8.encode "quit\n"] ∧
        Turn Sample.setup (run (welcome Sample.setup) (opened.reading front)).2 next ∧
        Relation.ReflTransGen (Turn Sample.setup) next last ∧
        Stop Sample.setup last short.1 short.2 := by
  intro opened front rest short
  let greeted := (run (welcome Sample.setup) (opened.reading front)).2
  let lines := [Utf8.encode "quit\n", Utf8.encode "quit\n"]
  let ended := run (execute Sample.setup "account-new") { greeted.prompted with input := lines }
  have input : greeted.input = Utf8.encode "account-new\n" :: lines := by decide +kernel
  have read : textOfLine (Utf8.encode "account-new\n") = .ok "account-new" :=
    ok_of_toOption (by decide +kernel)
  have goOn : ended.1 = .ok .goOn := ok_of_toOption (by decide +kernel)
  have turn : Turn Sample.setup greeted ended.2 :=
    .done input read (by decide) (goOn ▸ (Prod.eta ended).symm)
  have quits : ended.2.QuitsAt [] :=
    ⟨Utf8.encode "quit\n", "quit", by decide +kernel, ok_of_toOption (by decide +kernel),
      ⟨"quit", "Quit this app", .quit⟩, "", by decide +kernel, rfl⟩
  obtain ⟨same, -, -⟩ := nothing_after_quit Sample.setup opened
  obtain ⟨-, goesOn, -⟩ := nothing_after_quit Sample.setup (opened.reading front)
  obtain ⟨stopped, more⟩ := same front rest ended.2 [] (by decide +kernel) (.single turn) quits
  have other : ¬ SaysQuit "account-new" := by
    rintro ⟨command, params, dispatched, quit⟩
    have known : Command.dispatch "account-new" =
        some (⟨"account-new", "Create a new account (key pair)", .accountNew⟩, "") := by
      decide +kernel
    rw [known] at dispatched
    cases dispatched
    cases quit
  have named : short.2.wallet.store.names = ["quit"] := by
    rw [show short = _ from stopped]
    decide +kernel
  exact ⟨named, more, goesOn greeted _ lines "account-new" .refl input read other⟩

end Console

end LedgerWallet
