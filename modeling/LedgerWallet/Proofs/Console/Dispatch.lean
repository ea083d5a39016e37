import LedgerWallet.Proofs.Console.Evaluation
import LedgerWallet.Proofs.Sample
import LedgerWallet.Proofs.Text.Words

namespace LedgerWallet

namespace Command

open Text

variable {command other : Command} {table : List Command} {line params : String}
  {chars rest : List Char}

/-- The line begins with the name of the command, apart from white space in front of it. -/
def Fits (command : Command) (line : String) : Prop :=
  command.name.toList <+: trimStartChars line.toList

theorem eq_of_shorter_name : ∀ command ∈ all, ∀ other ∈ all,
    command.name.toList <+: other.name.toList → command = other := by decide +kernel

theorem eq_of_start (member : command ∈ all) (member' : other ∈ all)
    (starts : command.name.toList <+: chars) (starts' : other.name.toList <+: chars) :
    command = other := by
  -- Of two beginnings of one text one is the beginning of the other.
  rcases List.prefix_or_prefix_of_prefix starts starts' with shorter | shorter
  · exact eq_of_shorter_name command member other member' shorter
  · exact (eq_of_shorter_name other member' command member shorter).symm

theorem rest?_eq_some_iff : command.rest? chars = some rest ↔ chars = command.name.toList ++ rest := by
  constructor
  · exact dropStart?_eq_some
  · rintro rfl
    exact dropStart?_append _ _

def dispatchIn (table : List Command) (line : String) : Option (Command × String) :=
  table.findSome? fun command =>
    (command.rest? (trimStartChars line.toList)).map fun rest =>
      (command, String.ofList (trimChars rest))

theorem dispatchIn_eq_some_iff (known : table ⊆ all) :
    dispatchIn table line = some (command, params) ↔
      command ∈ table ∧ ∃ rest, trimStartChars line.toList = command.name.toList ++ rest ∧
        String.ofList (trimChars rest) = params := by
  have found : ∀ {command params}, dispatchIn table line = some (command, params) →
      command ∈ table ∧ ∃ rest, trimStartChars line.toList = command.name.toList ++ rest ∧
        String.ofList (trimChars rest) = params := by
    intro command params h
    obtain ⟨other, member, taken⟩ := List.exists_of_findSome?_eq_some h
    obtain ⟨rest, starts, same⟩ := Option.map_eq_some_iff.1 taken
    obtain ⟨rfl, rfl⟩ := Prod.mk.inj same
    exact ⟨member, rest, rest?_eq_some_iff.1 starts, rfl⟩
  refine ⟨found, ?_⟩
  rintro ⟨member, rest, starts, rfl⟩
  cases dispatched : dispatchIn table line with
  | none =>
    have unfit := List.findSome?_eq_none_iff.1 dispatched command member
    rw [rest?_eq_some_iff.2 starts] at unfit
    cases unfit
  | some known' =>
    obtain ⟨other, params⟩ := known'
    obtain ⟨member', rest', starts', rfl⟩ := found dispatched
    obtain rfl :=
      eq_of_start (known member) (known member') ⟨rest, starts.symm⟩ ⟨rest', starts'.symm⟩
    rw [List.append_cancel_left (starts.symm.trans starts')]

theorem dispatch_eq_some_iff : dispatch line = some (command, params) ↔
    command ∈ all ∧ ∃ rest, trimStartChars line.toList = command.name.toList ++ rest ∧
      String.ofList (trimChars rest) = params :=
  dispatchIn_eq_some_iff (List.Subset.refl all)

theorem dispatch_eq_none_iff : dispatch line = none ↔ ∀ command ∈ all, ¬ command.Fits line := by
  constructor
  · rintro unfit command member ⟨rest, starts⟩
    have dispatched := dispatch_eq_some_iff.2 ⟨member, rest, starts.symm, rfl⟩
    rw [unfit] at dispatched
    cases dispatched
  · intro unfit
    cases dispatched : dispatch line with
    | none => rfl
    | some found =>
      obtain ⟨member, rest, starts, -⟩ := dispatch_eq_some_iff.1 dispatched
      exact absurd ⟨rest, starts.symm⟩ (unfit found.1 member)

theorem dispatchIn_of_perm (same : table.Perm all) : dispatchIn table line = dispatch line := by
  apply Option.ext
  rintro ⟨command, params⟩
  rw [dispatchIn_eq_some_iff same.subset, dispatch_eq_some_iff, same.mem_iff]

theorem trim_params (dispatched : dispatch line = some (command, params)) :
    trim params = params := by
  obtain ⟨-, rest, -, rfl⟩ := dispatch_eq_some_iff.1 dispatched
  have whole : String.ofList (trimChars rest) = trim (String.ofList rest) := by
    rw [trim, String.toList_ofList]
  rw [whole]
  exact trim_trim _

theorem visible_name : ∀ command ∈ all, command.name.toList.head?.map isBlank = some false := by
  decide +kernel

theorem trimStartChars_name (member : command ∈ all) (rest : List Char) :
    trimStartChars (command.name.toList ++ rest) = command.name.toList ++ rest := by
  have visible := visible_name command member
  cases chars : command.name.toList with
  | nil =>
    rw [chars] at visible
    cases visible
  | cons c front =>
    rw [chars] at visible
    exact List.dropWhile_cons_of_neg (by simpa using visible)

theorem dispatch_name (member : command ∈ all) : dispatch command.name = some (command, "") := by
  refine dispatch_eq_some_iff.2 ⟨member, [], ?_, rfl⟩
  have start := trimStartChars_name member []
  rw [List.append_nil] at start ⊢
  exact start

theorem dispatch_name_append (member : command ∈ all) (params : String) :
    dispatch (command.name ++ " " ++ params) = some (command, trim params) := by
  have chars : (command.name ++ " " ++ params).toList =
      command.name.toList ++ ' ' :: params.toList := by
    simp
  refine dispatch_eq_some_iff.2 ⟨member, ' ' :: params.toList, ?_, rfl⟩
  rw [chars]
  exact trimStartChars_name member _

theorem unbroken_name (member : command ∈ all) : IsUnbroken command.name := by
  have checked : (all.all fun command => command.name.toList.all fun c => !isBlank c) = true := by
    decide +kernel
  intro c within
  have visible := List.all_eq_true.1 (List.all_eq_true.1 checked command member) c within
  rwa [Bool.not_eq_true'] at visible

theorem dispatch_trim (line : String) : dispatch (trim line) = dispatch line := by
  have start : trimStartChars (trim line).toList = trimEndChars (trimStartChars line.toList) := by
    rw [trim, String.toList_ofList, trimStartChars_trimChars, trimChars]
  obtain ⟨blanks, blank, parts⟩ := exists_blanks_behind (trimStartChars line.toList)
  apply Option.ext
  rintro ⟨command, params⟩
  rw [dispatch_eq_some_iff, dispatch_eq_some_iff, start]
  refine and_congr_right fun member => ?_
  constructor
  · rintro ⟨rest, starts, rfl⟩
    refine ⟨rest ++ blanks, ?_, ?_⟩
    · rw [← parts, starts, List.append_assoc]
    · rw [trimChars_append_blanks rest blank]
  · rintro ⟨rest, starts, rfl⟩
    have within : command.name.toList <+: trimEndChars (trimStartChars line.toList) :=
      prefix_trimEndChars (unbroken_name member) ⟨rest, starts.symm⟩
    obtain ⟨kept, whole⟩ := within
    have same : kept ++ blanks = rest := by
      rw [← whole, starts, List.append_assoc] at parts
      exact List.append_cancel_left parts
    refine ⟨kept, whole.symm, ?_⟩
    rw [← same, trimChars_append_blanks kept blank]

end Command

namespace Console

open Text

variable {setup : Setup}

theorem execute_trim (line : String) : execute setup (trim line) = execute setup line := by
  rw [execute, execute, Command.dispatch_trim]

theorem execute_named (name : String) {action : Action}
    (known : (name, action) ∈ Command.all.map fun command => (command.name, command.action))
    (params : String) :
    execute setup (name ++ " " ++ params) = perform setup action (trim params) := by
  obtain ⟨command, member, same⟩ := List.mem_map.1 known
  obtain ⟨rfl, rfl⟩ := Prod.mk.inj same
  rw [execute, Command.dispatch_name_append member]

theorem afterLine_trim (count : Nat) (line : String) :
    afterLine setup count (trim line) = afterLine setup count line := by
  rw [afterLine, afterLine, executeAndReport, executeAndReport, execute_trim]

/-- At most one command fits a line, so it does not matter in which order the commands are tried.
The line is dispatched to that command with the text behind its name, without white space around
it, and to none exactly if no command fits. White space around the line changes nothing: a line
that is typed at the prompt is executed as it stands. -/
theorem dispatch_unambiguous (setup : Setup) (line : String) :
    (∀ command ∈ Command.all, ∀ other ∈ Command.all,
      command.Fits line → other.Fits line → command = other) ∧
    (∀ table, table.Perm Command.all → Command.dispatchIn table line = Command.dispatch line) ∧
    (∀ command params, Command.dispatch line = some (command, params) ↔
      command ∈ Command.all ∧ ∃ rest,
        trimStartChars line.toList = command.name.toList ++ rest ∧
          params = trim (String.ofList rest)) ∧
    (Command.dispatch line = none ↔ ∀ command ∈ Command.all, ¬ command.Fits line) ∧
    Command.dispatch (trim line) = Command.dispatch line ∧
    (∀ console bytes rest count, console.input = bytes :: rest → Utf8.decode? bytes = some line →
      run (loop setup (count + 1)) console =
        run (if isAllBlank line then loop setup count else afterLine setup count line)
          { console with input := rest, output := console.output ++ "$ " }) ∧
    ∀ command ∈ Command.all, ∀ params,
      Command.dispatch (command.name ++ " " ++ params) = some (command, trim params) := by
  refine ⟨?_, ?_, ?_, Command.dispatch_eq_none_iff, Command.dispatch_trim line, ?_, ?_⟩
  · intro command member other member' fits fits'
    exact Command.eq_of_start member member' fits fits'
  · intro table same
    exact Command.dispatchIn_of_perm same
  · intro command params
    rw [Command.dispatch_eq_some_iff]
    refine and_congr_right fun _ => exists_congr fun rest => and_congr_right fun _ => ?_
    rw [trim, String.toList_ofList, eq_comm]
  · intro console bytes rest count input decoded
    have read : textOfLine bytes = .ok (trim line) := by rw [textOfLine, decoded]
    rw [run_loop_of_line setup input read, afterLine_trim]
    simp only [trim_eq_empty_iff]
  · intro command member params
    exact Command.dispatch_name_append member params

/-- A wide space in front of the name, a tab behind it, and the commands turned round. -/
theorem dispatch_of_spaced_line :
    let line := "\u3000account-new\tfirst \n"
    let rest := [Utf8.encode "quit\n"]
    let command : Command := ⟨"account-new", "Create a new account (key pair)", .accountNew⟩
    (∀ other ∈ Command.all, other.Fits line → other = command) ∧
      Command.dispatchIn Command.all.reverse line = some (command, "first") ∧
      Command.dispatch (trim line) = some (command, "first") ∧
      Command.dispatch "account-new first\u3000" = some (command, "first") ∧
      run (loop Sample.setup 2) { Sample.opened .empty with input := Utf8.encode line :: rest } =
        run (afterLine Sample.setup 1 line)
          { Sample.opened .empty with input := rest, output := "$ " } := by
  intro line rest command
  have member : command ∈ Command.all := by decide
  have starts : trimStartChars line.toList = "account-new".toList ++ "\tfirst \n".toList := by
    decide +kernel
  have visible : isAllBlank line = false := by decide +kernel
  obtain ⟨single, order, exact, -, around, entered, named⟩ := dispatch_unambiguous Sample.setup line
  have dispatched : Command.dispatch line = some (command, "first") :=
    (exact command "first").2 ⟨member, _, starts, by decide +kernel⟩
  refine ⟨?_, ?_, around.trans dispatched, ?_, ?_⟩
  · intro other member' fits
    exact single other member' command member fits ⟨_, starts.symm⟩
  · exact (order _ (List.reverse_perm _)).trans dispatched
  · exact (named command member "first\u3000").trans (by decide +kernel)
  · rw [entered _ _ rest 1 rfl (Utf8.decode?_encode line), visible]
    rfl

end Console

end LedgerWallet
