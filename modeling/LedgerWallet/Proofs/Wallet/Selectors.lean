import LedgerWallet.Proofs.Text.Numerals
import LedgerWallet.Proofs.Wallet.Selection

namespace LedgerWallet

open Wallet

def SpellsPosition (text : String) (position : Nat) : Prop :=
  Numeral.IsDigits text.toList ∧ Numeral.valueOf text.toList = position ∧ position < Nat.pow 2 64

def SpellsSigned (text : String) (position : Nat) : Prop :=
  ∃ digits, text.toList = '+' :: digits ∧ Numeral.IsDigits digits ∧
    Numeral.valueOf digits = position ∧ position < Nat.pow 2 64

theorem read_position_iff {text : String} {position : Nat} :
    Numeral.read (Nat.pow 2 64) text = .ok position ↔
      SpellsPosition text position ∨ SpellsSigned text position := by
  rw [Numeral.read_eq_ok_iff (by decide)]
  constructor
  · rintro ⟨digits, unsigned | signed, isDigits, value⟩
    · subst unsigned
      exact Or.inl ⟨isDigits, value⟩
    · exact Or.inr ⟨digits, signed, isDigits, value⟩
  · rintro (⟨isDigits, value⟩ | ⟨digits, signed, isDigits, value⟩)
    · exact ⟨text.toList, Or.inl rfl, isDigits, value⟩
    · exact ⟨digits, Or.inr signed, isDigits, value⟩

theorem SpellsSigned.not_isDigits {text : String} {position : Nat}
    (signed : SpellsSigned text position) : ¬ Numeral.IsDigits text.toList := by
  obtain ⟨digits, spelled, -⟩ := signed
  intro isDigits
  have plus := isDigits.2 '+' (by rw [spelled]; exact List.mem_cons_self)
  exact absurd plus (by decide)

namespace Session

variable {store : Store} {account : Account} {text : String} {position : Nat}

theorem locate_of_name (distinct : store.names.Nodup) (found : store.get position = .ok account)
    (named : account.name = text) : locate store (.name text) = .ok position := by
  have known := (Store.positionOf?_eq_some_iff distinct).2 ⟨account, found, named⟩
  rw [locate, known]

theorem locate_of_number (free : text ∉ store.names)
    (read : Numeral.read (Nat.pow 2 64) text = .ok position) :
    locate store (.name text) = locate store (.position position) := by
  have unknown : store.positionOf? text = none := by
    rw [← Option.not_isSome_iff_eq_none, Store.positionOf?_isSome_iff]
    exact free
  simp only [locate, unknown, read]

theorem locate_of_other (free : text ∉ store.names)
    (unread : ∀ position, Numeral.read (Nat.pow 2 64) text ≠ .ok position) :
    locate store (.name text) = .error (.notFound text) := by
  have unknown : store.positionOf? text = none := by
    rw [← Option.not_isSome_iff_eq_none, Store.positionOf?_isSome_iff]
    exact free
  cases read : Numeral.read (Nat.pow 2 64) text with
  | ok position => exact absurd read (unread position)
  | error error => simp only [locate, unknown, read]

end Session

theorem Wallet.select_of_locate {wallet : Wallet} {selector : Selector} {account : Account}
    {position : Nat} (located : Session.locate wallet.store selector = .ok position)
    (found : wallet.store.get position = .ok account) :
    wallet.select selector = .ok (account, { wallet with session := ⟨some position⟩ }) := by
  simp only [select, Session.select, located, found, bind, Except.bind, pure, Except.pure,
    Except.mapError]

namespace Desk

variable {desk next : Desk} {account : Account} {selector : Selector}
  {text : String} {position : Nat} {failed : Option WalletError}

def Picks (desk : Desk) (position : Nat) (failed : Option WalletError) (next : Desk) : Prop :=
  ∃ account, desk.wallet.store.get position = .ok account ∧ failed = none ∧
    next = { desk with wallet := { desk.wallet with session := ⟨some position⟩ } } ∧
    next.wallet.currentAccount = .ok account

def Refuses (desk : Desk) (error : StoreError) (failed : Option WalletError) (next : Desk) : Prop :=
  failed = some (.store error) ∧ next = desk

def TriesPosition (desk : Desk) (position : Nat) (failed : Option WalletError) (next : Desk) :
    Prop :=
  desk.Picks position failed next ∨
    (position = 0 ∨ desk.wallet.store.size < position) ∧
      desk.Refuses (.positionOutOfRange position desk.wallet.store.size) failed next

/-- The rule for a typed text. The account of this very name is picked; without one, digits alone
stand for a position; and any other text names no account. -/
inductive FollowsRule (desk : Desk) (text : String) (failed : Option WalletError) (next : Desk) :
    Prop
  | named {position : Nat} {account : Account} :
      desk.wallet.store.get position = .ok account → account.name = text →
      desk.Picks position failed next → FollowsRule desk text failed next
  | position {position : Nat} :
      text ∉ desk.wallet.store.names → SpellsPosition text position →
      desk.TriesPosition position failed next → FollowsRule desk text failed next
  | tooLarge {error : StoreError} :
      text ∉ desk.wallet.store.names → Numeral.IsDigits text.toList →
      Nat.pow 2 64 ≤ Numeral.valueOf text.toList →
      desk.Refuses error failed next → FollowsRule desk text failed next
  | unknown :
      text ∉ desk.wallet.store.names → ¬ Numeral.IsDigits text.toList →
      desk.Refuses (.notFound text) failed next → FollowsRule desk text failed next

theorem picks_of_locate (node : Node)
    (located : Session.locate desk.wallet.store selector = .ok position)
    (found : desk.wallet.store.get position = .ok account) :
    desk.Picks position (desk.perform node (.select selector)).1
      (desk.perform node (.select selector)).2 := by
  simp only [perform, Wallet.select_of_locate located found]
  exact ⟨account, found, rfl, rfl, currentAccount_of_selected rfl found⟩

theorem refuses_of_locate (node : Node) {error : StoreError}
    (located : Session.locate desk.wallet.store selector = .error error) :
    desk.Refuses error (desk.perform node (.select selector)).1
      (desk.perform node (.select selector)).2 := by
  have selected : desk.wallet.select selector = .error (.store error) := by
    simp only [Wallet.select, Session.select, located, bind, Except.bind, Except.mapError]
  simp only [perform, selected]
  exact ⟨rfl, rfl⟩

theorem triesPosition_of_locate (node : Node)
    (located : Session.locate desk.wallet.store selector =
      Session.locate desk.wallet.store (.position position)) :
    desk.TriesPosition position (desk.perform node (.select selector)).1
      (desk.perform node (.select selector)).2 := by
  cases found : desk.wallet.store.get position with
  | ok account =>
    rw [Session.locate, found] at located
    exact Or.inl (picks_of_locate node located found)
  | error error =>
    obtain ⟨rfl, outside⟩ := Store.get_eq_error_iff.1 found
    rw [Session.locate, found] at located
    exact Or.inr ⟨outside, refuses_of_locate node located⟩

theorem followsRule_of_named (node : Node) (distinct : desk.wallet.store.names.Nodup)
    (found : desk.wallet.store.get position = .ok account) (named : account.name = text) :
    desk.FollowsRule text (desk.perform node (.select (.name text))).1
      (desk.perform node (.select (.name text))).2 :=
  .named found named (picks_of_locate node (Session.locate_of_name distinct found named) found)

theorem triesPosition_of_read (node : Node) (free : text ∉ desk.wallet.store.names)
    (read : Numeral.read (Nat.pow 2 64) text = .ok position) :
    desk.TriesPosition position (desk.perform node (.select (.name text))).1
      (desk.perform node (.select (.name text))).2 :=
  triesPosition_of_locate node (Session.locate_of_number free read)

theorem followsRule_of_unread (node : Node) (free : text ∉ desk.wallet.store.names)
    (unread : ∀ position, Numeral.read (Nat.pow 2 64) text ≠ .ok position) :
    desk.FollowsRule text (desk.perform node (.select (.name text))).1
      (desk.perform node (.select (.name text))).2 := by
  have refused := refuses_of_locate node (Session.locate_of_other free unread)
  by_cases isDigits : Numeral.IsDigits text.toList
  · refine .tooLarge free isDigits (Nat.le_of_not_lt fun fits => ?_) refused
    exact unread _ (read_position_iff.2 (Or.inl ⟨isDigits, rfl, fits⟩))
  · exact .unknown free isDigits refused

theorem not_followsRule_of_signed (node : Node) (free : text ∉ desk.wallet.store.names)
    (signed : SpellsSigned text position) :
    ¬ desk.FollowsRule text (desk.perform node (.select (.name text))).1
      (desk.perform node (.select (.name text))).2 := by
  intro follows
  have tries := triesPosition_of_read node free (read_position_iff.2 (Or.inr signed))
  cases follows with
  | named found named _ =>
    exact free (List.mem_map.2 ⟨_, Store.mem_of_get found, named⟩)
  | position _ spelled _ => exact signed.not_isDigits spelled.1
  | tooLarge _ isDigits _ _ => exact signed.not_isDigits isDigits
  | unknown _ _ refused =>
    obtain ⟨_, _, done, -⟩ | ⟨_, failed, -⟩ := tries
    · cases done.symm.trans refused.1
    · cases failed.symm.trans refused.1

/-- Every typed text is taken by the rule, except for a `+` with digits behind it that names no
account, which is tried as a position. Positions are never read as names. -/
theorem selection_follows_rule_iff (reachable : desk.wallet.store.Reachable) (node : Node)
    (text : String) (position : Nat) :
    let typed := desk.perform node (.select (.name text))
    let counted := desk.perform node (.select (.position position))
    (desk.FollowsRule text typed.1 typed.2 ↔
        ¬ (text ∉ desk.wallet.store.names ∧ ∃ number, SpellsSigned text number)) ∧
      (∀ number, text ∉ desk.wallet.store.names → SpellsSigned text number →
        desk.TriesPosition number typed.1 typed.2) ∧
      desk.TriesPosition position counted.1 counted.2 := by
  intro typed counted
  refine ⟨⟨fun follows => ?_, fun unsigned => ?_⟩, fun number free signed => ?_, ?_⟩
  · rintro ⟨free, number, signed⟩
    exact not_followsRule_of_signed node free signed follows
  · by_cases named : text ∈ desk.wallet.store.names
    · obtain ⟨position, known⟩ := Option.isSome_iff_exists.1 (Store.positionOf?_isSome_iff.2 named)
      have distinct := reachable.sound.distinct
      obtain ⟨account, found, same⟩ := (Store.positionOf?_eq_some_iff distinct).1 known
      exact followsRule_of_named node distinct found same
    · by_cases number : ∃ position, Numeral.read (Nat.pow 2 64) text = .ok position
      · obtain ⟨position, read⟩ := number
        rcases read_position_iff.1 read with spelled | signed
        · exact .position named spelled (triesPosition_of_read node named read)
        · exact absurd ⟨named, position, signed⟩ unsigned
      · exact followsRule_of_unread node named fun position read => number ⟨position, read⟩
  · exact triesPosition_of_read node free (read_position_iff.2 (Or.inr signed))
  · exact triesPosition_of_locate node rfl

/-- No account has the name `+2`, and it is taken for the second position. -/
theorem signed_number_picks_account :
    let first := Account.generate Sample.seeds.next "alice"
    let second := Account.generate Sample.seeds.rest.next "bob"
    let desk : Desk :=
      ⟨Wallet.ofStore ⟨[first, second]⟩ ⟨"accounts.json"⟩ 1000, .empty, Sample.seeds, []⟩
    let typed := desk.perform Sample.setup.node (.select (.name "+2"))
    typed.2.wallet.currentAccount = .ok second ∧ ¬ desk.FollowsRule "+2" typed.1 typed.2 := by
  intro first second desk typed
  have one : Store.empty.create Sample.seeds "alice" = .ok (⟨[first]⟩, Sample.seeds.rest) := rfl
  have two : Store.create ⟨[first]⟩ Sample.seeds.rest "bob" =
      .ok (⟨[first, second]⟩, Sample.seeds.rest.rest) := rfl
  have free : "+2" ∉ desk.wallet.store.names := by
    change "+2" ∉ ["alice", "bob"]
    decide
  have signed : SpellsSigned "+2" 2 := ⟨['2'], rfl, by decide, by decide, by decide⟩
  have reachable : desk.wallet.store.Reachable := .create (.create .empty one) two
  have byRule := (selection_follows_rule_iff reachable Sample.setup.node "+2" 2).1
  exact ⟨rfl, fun follows => byRule.1 follows ⟨free, 2, signed⟩⟩

end Desk

end LedgerWallet
