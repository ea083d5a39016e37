import LedgerWallet.Proofs.Console.Resuming

namespace LedgerWallet

namespace Console

variable {setup : Setup} {console next prompt last stopped : Console} {line : ByteString}
  {result : Except WalletError Unit} {flow : Except WalletError Flow}

def Executes (setup : Setup) (prompt : Console) (flow : Except WalletError Flow)
    (next : Console) : Prop :=
  ∃ line rest text, prompt.input = line :: rest ∧ textOfLine line = .ok text ∧
    run (execute setup text) { prompt.prompted with input := rest } = (flow, next)

/-- All lines are read and another one is wanted, at the prompt or by the command there. -/
inductive Pending (setup : Setup) (prompt : Console) : Console → Prop
  | unread (input : prompt.input = []) : Pending setup prompt prompt.prompted
  | asking {next : Console} (executes : Executes setup prompt (.error .inputClosed) next) :
      Pending setup prompt next

theorem Executes.addsText (executes : Executes setup prompt flow next) :
    AddsText prompt.prompted next := by
  obtain ⟨line, rest, text, -, -, executed⟩ := executes
  have confined : Confined setup Effect.all (execute setup text) := confined_execute text
  have printed := confined.addsText { prompt.prompted with input := rest }
  rw [executed] at printed
  exact printed

theorem Executes.unique {flow' : Except WalletError Flow} {next' : Console}
    (executes : Executes setup prompt flow next) (executes' : Executes setup prompt flow' next') :
    flow = flow' ∧ next = next' := by
  obtain ⟨line, rest, text, input, read, executed⟩ := executes
  obtain ⟨line', rest', text', input', read', executed'⟩ := executes'
  rw [input] at input'
  cases input'
  rw [read] at read'
  cases read'
  rw [executed] at executed'
  exact Prod.mk.inj executed'

theorem not_asks_of_blank (input : prompt.input = line :: rest) (read : textOfLine line = .ok "") :
    ¬ Executes setup prompt (.error .inputClosed) next := by
  rintro ⟨line', rest', text, input', read', executed⟩
  rw [input] at input'
  cases input'
  rw [read] at read'
  cases read'
  have none : Command.dispatch "" = none := by decide +kernel
  rw [execute, none] at executed
  cases executed

theorem addsText_prompted (console : Console) : AddsText console console.prompted := ⟨"$ ", rfl⟩

theorem Turn.addsText (turn : Turn setup console next) : AddsText console next := by
  apply (addsText_prompted console).trans
  cases turn with
  | blank input read => exact .of_eq rfl
  | done input read visible executed => exact Executes.addsText ⟨_, _, _, input, read, executed⟩
  | failed input read visible executed =>
    exact (Executes.addsText ⟨_, _, _, input, read, executed⟩).trans ⟨_, rfl⟩

theorem addsText_of_turns (turns : Relation.ReflTransGen (Turn setup) console prompt) :
    AddsText console prompt := by
  induction turns with
  | refl => exact .refl console
  | tail _ turn ih => exact ih.trans turn.addsText

theorem Stop.addsText (stop : Stop setup console result last) :
    AddsText console.prompted last := by
  cases stop with
  | closed input => exact .refl _
  | quit input read visible executed => exact Executes.addsText ⟨_, _, _, input, read, executed⟩
  | unreadable input broken => exact .of_eq rfl

theorem Pending.resumes (pending : Pending setup prompt stopped)
    (executes : Executes setup (prompt.followedBy [line]) flow next) :
    AddsText stopped next ∧ (flow = .error .inputClosed ∨ next.input = []) := by
  have printed := executes.addsText
  obtain ⟨first, rest, text, input, read, executed⟩ := executes
  have confined : Confined setup Effect.all (execute setup text) := confined_execute text
  cases pending with
  | unread none =>
    rw [followedBy, none] at input
    cases input
    have left := confined.readsOn { (prompt.followedBy [line]).prompted with input := [] }
    rw [executed, List.suffix_nil] at left
    exact ⟨printed, Or.inr left⟩
  | asking asks =>
    obtain ⟨first', rest', text', input', read', executed'⟩ := asks
    rw [input_followedBy input'] at input
    cases input
    rw [read] at read'
    cases read'
    let asking := { prompt.prompted with input := rest' }
    have again := confined.readsByLine.resumes asking line
    have goesOn : run (execute setup text) (asking.followedBy [line]) = (flow, next) := executed
    rw [executed', goesOn] at again
    exact again rfl

theorem Turn.resumes (turn : Turn setup (prompt.followedBy [line]) next)
    (pending : Pending setup prompt stopped) (enough : Suffices setup (prompt.followedBy [line])) :
    AddsText stopped next ∧ next.input = [] := by
  cases turn with
  | blank input read =>
    cases pending with
    | unread none =>
      rw [Console.followedBy, none] at input
      cases input
      exact ⟨.of_eq rfl, rfl⟩
    | asking asks =>
      obtain ⟨first, rest, text, input', others⟩ := asks
      rw [input_followedBy input'] at input
      cases input
      exact absurd ⟨_, _, _, input', others⟩ (not_asks_of_blank input' read)
  | done input read visible executed =>
    obtain ⟨printed, ended⟩ := pending.resumes ⟨_, _, _, input, read, executed⟩
    exact ⟨printed, ended.resolve_left (by simp)⟩
  | failed input read visible executed =>
    obtain ⟨printed, ended⟩ := pending.resumes ⟨_, _, _, input, read, executed⟩
    exact ⟨printed.trans ⟨_, rfl⟩,
      ended.resolve_left (ne_inputClosed_of_suffices enough input read executed)⟩

theorem Stop.resumes (stop : Stop setup (prompt.followedBy [line]) result last)
    (pending : Pending setup prompt stopped) : AddsText stopped last := by
  cases stop with
  | closed input => simp [Console.followedBy] at input
  | quit input read visible executed => exact (pending.resumes ⟨_, _, _, input, read, executed⟩).1
  | unreadable input broken =>
    cases pending with
    | unread none => exact .of_eq rfl
    | asking asks =>
      obtain ⟨first, rest, text, input', read, -⟩ := asks
      rw [input_followedBy input'] at input
      cases input
      rw [textOfLine, broken] at read
      cases read

theorem Turn.addsText_of_pending (turn : Turn setup prompt next)
    (pending : Pending setup prompt stopped) : AddsText stopped next := by
  cases pending with
  | unread none =>
    obtain ⟨line, rest, input, -⟩ := turn.reads
    rw [none] at input
    cases input
  | asking asks =>
    cases turn with
    | blank input read => exact absurd asks (not_asks_of_blank input read)
    | done input read visible executed =>
      cases (asks.unique ⟨_, _, _, input, read, executed⟩).1
    | failed input read visible executed =>
      obtain ⟨-, rfl⟩ := asks.unique ⟨_, _, _, input, read, executed⟩
      exact ⟨_, rfl⟩

theorem Stop.addsText_of_pending (stop : Stop setup prompt result last)
    (pending : Pending setup prompt stopped) : AddsText stopped last := by
  cases pending with
  | unread none => exact stop.addsText
  | asking asks =>
    cases stop with
    | quit input read visible executed =>
      cases (asks.unique ⟨_, _, _, input, read, executed⟩).1
    | closed input =>
      obtain ⟨line, rest, text, input', -⟩ := asks
      rw [input] at input'
      cases input'
    | unreadable input broken =>
      obtain ⟨line, rest, text, input', read, -⟩ := asks
      rw [input] at input'
      cases input'
      rw [textOfLine, broken] at read
      cases read

/-- At the end of the input the session goes on from where a line is wanted. -/
theorem Pending.addsText (pending : Pending setup prompt stopped)
    (turns : Relation.ReflTransGen (Turn setup) prompt console)
    (stop : Stop setup console result last) : AddsText stopped last := by
  rcases turns.cases_head with rfl | ⟨second, turn, turns⟩
  · exact stop.addsText_of_pending pending
  · have printed : AddsText console last := (addsText_prompted console).trans stop.addsText
    exact (turn.addsText_of_pending pending).trans ((addsText_of_turns turns).trans printed)

end Console

namespace Dialogue

open Console

variable {setup : Setup} {console prompt : Console} {dialogue : Dialogue} {line : ByteString}
  {lines : List ByteString} {text : String}

theorem pending_of_eq_some (asks : pending? setup prompt = some text) :
    ∃ stopped, Pending setup prompt stopped ∧ stopped.output = text := by
  unfold pending? at asks
  split at asks
  · rename_i none
    cases asks
    exact ⟨_, .unread none, rfl⟩
  · rename_i input
    split at asks
    · cases asks
    · rename_i read
      dsimp only at asks
      split at asks
      · rename_i executed
        cases asks
        exact ⟨_, .asking ⟨_, _, _, input, read, executed⟩, rfl⟩
      · cases asks

theorem feed_cases (setup : Setup) (prompt : Console) (line : ByteString) :
    ((pending? setup (prompt.followedBy [line])).isSome ∧
        feed setup (.waiting prompt) line = .waiting (prompt.followedBy [line])) ∨
      Suffices setup (prompt.followedBy [line]) ∧
        ((∃ next, Turn setup (prompt.followedBy [line]) next ∧
            feed setup (.waiting prompt) line = .waiting next) ∨
          ∃ result last, Stop setup (prompt.followedBy [line]) result last ∧
            feed setup (.waiting prompt) line = .ended result last) := by
  unfold feed
  dsimp only
  split
  · rename_i asks
    exact Or.inl ⟨asks, rfl⟩
  · rename_i enough
    refine Or.inr ⟨Option.not_isSome_iff_eq_none.1 enough, ?_⟩
    rcases turn_or_stop setup (prompt.followedBy [line]) with ⟨next, turn⟩ | ⟨result, last, stop⟩
    · rw [turn.run_loop 0]
      exact Or.inl ⟨next, turn, rfl⟩
    · rw [stop.run_loop 0]
      cases result with
      | error error => exact Or.inr ⟨_, last, stop, rfl⟩
      | ok done => exact Or.inr ⟨_, last, stop, rfl⟩

/-- Whatever lines follow, a session with these lines and those comes from the console to where the
dialogue is. -/
def Mirrors (setup : Setup) (console : Console) (lines : List ByteString) : Dialogue → Prop
  | .waiting prompt => ∀ more, Relation.ReflTransGen (Turn setup)
      (console.followedBy (lines ++ more)) (prompt.followedBy more)
  | .ended result last => ∀ more, ∃ prompt, Relation.ReflTransGen (Turn setup)
      (console.followedBy (lines ++ more)) prompt ∧ Stop setup prompt result (last.followedBy more)

theorem followedBy_append (console : Console) (lines more : List ByteString) :
    console.followedBy (lines ++ more) = (console.followedBy lines).followedBy more := by
  simp [followedBy]

theorem followedBy_nil (console : Console) : console.followedBy [] = console := by
  simp [followedBy]

theorem mirrors_start (setup : Setup) (console : Console) :
    Mirrors setup console [] (.waiting console) := fun _ => .refl

theorem Mirrors.feed (mirrors : Mirrors setup console lines dialogue) (line : ByteString) :
    Mirrors setup console (lines ++ [line]) (dialogue.feed setup line) := by
  cases dialogue with
  | ended result last =>
    intro more
    obtain ⟨prompt, turns, stop⟩ := mirrors (line :: more)
    refine ⟨prompt, by simpa using turns, ?_⟩
    rw [← followedBy_append]
    exact stop
  | waiting prompt =>
    have turns : ∀ more, Relation.ReflTransGen (Turn setup)
        (console.followedBy (lines ++ [line] ++ more))
        ((prompt.followedBy [line]).followedBy more) := by
      intro more
      rw [← followedBy_append, List.append_assoc]
      exact mirrors ([line] ++ more)
    have wanted : (prompt.followedBy [line]).input ≠ [] := by simp [followedBy]
    rcases feed_cases setup prompt line with
      ⟨-, fed⟩ | ⟨enough, ⟨next, turn, fed⟩ | ⟨result, last, stop, fed⟩⟩
    all_goals rw [fed]
    · exact turns
    · exact fun more => (turns more).tail (turn.followedBy (Or.inr enough) more)
    · exact fun more => ⟨_, turns more, stop.followedBy wanted more⟩

theorem mirrors_foldl (mirrors : Mirrors setup console lines dialogue) (more : List ByteString) :
    Mirrors setup console (lines ++ more) (more.foldl (feed setup) dialogue) := by
  induction more generalizing lines dialogue with
  | nil => simpa using mirrors
  | cons line more ih => simpa using ih (mirrors.feed line)

theorem close_of_stop {last : Console} {result : Except WalletError Unit}
    (turns : Relation.ReflTransGen (Turn setup) prompt console)
    (stop : Stop setup console result last) :
    close setup (.waiting prompt) = (result, last) := by
  have ended := run_loop_of_turns turns stop (Nat.lt_succ_self _)
  rw [close, ended]
  cases result with
  | error error => rfl
  | ok done => rfl

/-- A session comes to the same end when its lines come one at a time. -/
theorem close_foldl_feed (setup : Setup) (console : Console) (lines : List ByteString) :
    (lines.foldl (feed setup) (start setup console)).close setup =
      run (session setup) (console.followedBy lines) := by
  let greeted := (run (welcome setup) console).2
  have welcomed : (run (welcome setup) (console.followedBy lines)).2 = greeted.followedBy lines :=
    rfl
  have mirrors := mirrors_foldl (mirrors_start setup greeted) lines
  rw [List.nil_append] at mirrors
  change (lines.foldl (feed setup) (.waiting greeted)).close setup = _
  cases ended : lines.foldl (feed setup) (.waiting greeted) with
  | ended result last =>
    rw [ended] at mirrors
    obtain ⟨prompt, turns, stop⟩ := mirrors []
    rw [List.append_nil, ← welcomed] at turns
    rw [followedBy_nil] at stop
    exact (run_session_of_turns turns stop).symm
  | waiting prompt =>
    rw [ended] at mirrors
    have turns := mirrors []
    obtain ⟨final, result, last, later, stop⟩ := exists_stop setup prompt
    rw [List.append_nil, followedBy_nil, ← welcomed] at turns
    rw [close_of_stop later stop, run_session_of_turns (turns.trans later) stop]

def IsOpen (setup : Setup) : Dialogue → Prop
  | .waiting prompt => ∃ stopped, Pending setup prompt stopped
  | .ended _ _ => True

theorem isOpen_of_unread (none : prompt.input = []) : IsOpen setup (.waiting prompt) :=
  ⟨_, .unread none⟩

theorem IsOpen.feed (isOpen : IsOpen setup dialogue) (line : ByteString) :
    IsOpen setup (dialogue.feed setup line) := by
  cases dialogue with
  | ended result last => exact isOpen
  | waiting prompt =>
    obtain ⟨stopped, pending⟩ := isOpen
    rcases feed_cases setup prompt line with
      ⟨asks, fed⟩ | ⟨enough, ⟨next, turn, fed⟩ | ⟨result, last, stop, fed⟩⟩
    all_goals rw [fed]
    · obtain ⟨text, asks⟩ := Option.isSome_iff_exists.1 asks
      obtain ⟨stopped, pending, -⟩ := pending_of_eq_some asks
      exact ⟨stopped, pending⟩
    · exact isOpen_of_unread (turn.resumes pending enough).2
    · trivial

theorem Pending.shown {stopped : Console} (pending : Pending setup prompt stopped) :
    shown setup (.waiting prompt) = stopped.output := by
  cases pending with
  | unread none => simp [Dialogue.shown, pending?, none, prompted]
  | asking asks =>
    obtain ⟨line, rest, text, input, read, executed⟩ := asks
    have stops : run (execute setup text)
      { prompt with input := rest, output := prompt.output ++ "$ " } = (_, stopped) := executed
    simp [Dialogue.shown, pending?, input, read, stops]

theorem IsOpen.shown_feed (isOpen : IsOpen setup dialogue) (line : ByteString) :
    ∃ more, (dialogue.feed setup line).shown setup = dialogue.shown setup ++ more := by
  cases dialogue with
  | ended result last => exact ⟨"", String.append_empty.symm⟩
  | waiting prompt =>
    obtain ⟨stopped, pending⟩ := isOpen
    rw [Pending.shown pending]
    rcases feed_cases setup prompt line with
      ⟨asks, fed⟩ | ⟨enough, ⟨next, turn, fed⟩ | ⟨result, last, stop, fed⟩⟩
    all_goals rw [fed]
    · obtain ⟨text, asks⟩ := Option.isSome_iff_exists.1 asks
      obtain ⟨stopped', pending', -⟩ := pending_of_eq_some asks
      rw [Pending.shown pending']
      cases pending' with
      | unread none => simp [followedBy] at none
      | asking asks => exact (pending.resumes asks).1
    · obtain ⟨printed, none⟩ := turn.resumes pending enough
      rw [Pending.shown (.unread none)]
      exact printed.trans (addsText_prompted next)
    · exact stop.resumes pending

theorem IsOpen.shown_foldl (isOpen : IsOpen setup dialogue) (lines : List ByteString) :
    IsOpen setup (lines.foldl (Dialogue.feed setup) dialogue) ∧
      ∃ more, (lines.foldl (Dialogue.feed setup) dialogue).shown setup =
        dialogue.shown setup ++ more := by
  induction lines generalizing dialogue with
  | nil => exact ⟨isOpen, "", String.append_empty.symm⟩
  | cons line lines ih =>
    obtain ⟨more, printed⟩ := isOpen.shown_feed line
    obtain ⟨later, others, printed'⟩ := ih (isOpen.feed line)
    refine ⟨later, more ++ others, ?_⟩
    rw [List.foldl_cons, printed', printed, String.append_assoc]

theorem IsOpen.shown_close (isOpen : IsOpen setup dialogue) :
    ∃ more, (dialogue.close setup).2.output = dialogue.shown setup ++ more := by
  cases dialogue with
  | ended result last => exact ⟨"", String.append_empty.symm⟩
  | waiting prompt =>
    obtain ⟨stopped, pending⟩ := isOpen
    obtain ⟨final, result, last, turns, stop⟩ := exists_stop setup prompt
    rw [close_of_stop turns stop, Pending.shown pending]
    exact pending.addsText turns stop

/-- What is shown after some lines is the beginning of what a session prints that has these lines in
front, and another line is only taken when that one wants it. -/
theorem shown_foldl_feed (setup : Setup) (none : console.input = []) (lines others : List ByteString) :
    let dialogue := lines.foldl (feed setup) (start setup console)
    IsOpen setup dialogue ∧
      ∃ more, (run (session setup) (console.followedBy (lines ++ others))).2.output =
        dialogue.shown setup ++ more := by
  intro dialogue
  have fresh : (run (welcome setup) console).2.input = [] := none
  have started : IsOpen setup (start setup console) := isOpen_of_unread fresh
  have isOpen : IsOpen setup dialogue := (started.shown_foldl lines).1
  obtain ⟨later, more, printed⟩ := isOpen.shown_foldl others
  obtain ⟨rest, closed⟩ := later.shown_close
  refine ⟨isOpen, more ++ rest, ?_⟩
  rw [← close_foldl_feed, List.foldl_append, ← String.append_assoc, ← printed]
  exact closed

end Dialogue

end LedgerWallet
