import Mathlib.Data.List.Nodup
import LedgerWallet.Proofs.Store.RoundTrip

namespace LedgerWallet.Store

variable {store : Store} {account : Account} {position : Nat} {name : String}

theorem get_eq_ok_iff : store.get position = .ok account ↔
    ∃ index, position = index + 1 ∧ store.accounts[index]? = some account := by
  cases position with
  | zero => simp [get]
  | succ index =>
    simp only [get, Nat.add_right_cancel_iff, exists_eq_left']
    cases store.accounts[index]? <;> simp

theorem get_eq_error_iff {error : StoreError} : store.get position = .error error ↔
    error = .positionOutOfRange position store.size ∧ (position = 0 ∨ store.size < position) := by
  cases position with
  | zero => simp [get, eq_comm]
  | succ index =>
    cases found : store.accounts[index]? with
    | none =>
      have outside : store.size ≤ index := List.getElem?_eq_none_iff.1 found
      simp only [get, found, Except.error.injEq]
      constructor
      · rintro rfl
        exact ⟨rfl, Or.inr (by omega)⟩
      · rintro ⟨rfl, -⟩
        rfl
    | some account =>
      have inside : index < store.size := (List.getElem?_eq_some_iff.1 found).1
      simp only [get, found, reduceCtorEq, false_iff]
      rintro ⟨-, no | outside⟩
      · cases no
      · omega

theorem names_of_get (h : store.get position = .ok account) :
    store.names[position - 1]? = some account.name := by
  obtain ⟨index, rfl, found⟩ := get_eq_ok_iff.1 h
  rw [names, Nat.add_sub_cancel, List.getElem?_map, found]
  rfl

theorem earlier_name_ne (distinct : store.names.Nodup) {index earlier : Nat}
    (bound : index < store.accounts.length) (lt : earlier < index) :
    store.accounts[earlier].name ≠ store.accounts[index].name := by
  intro same
  apply List.nodup_iff_getElem?_ne_getElem?.1 distinct earlier index lt
  · simpa [names] using bound
  · simp [names, same, bound, Nat.lt_trans lt bound]

theorem positionOf?_eq_some_iff (distinct : store.names.Nodup) :
    store.positionOf? name = some position ↔
      ∃ account, store.get position = .ok account ∧ account.name = name := by
  simp only [positionOf?, Option.map_eq_some_iff, List.findIdx?_eq_some_iff_getElem, get_eq_ok_iff]
  constructor
  · rintro ⟨index, ⟨bound, here, -⟩, rfl⟩
    exact ⟨_, ⟨index, rfl, List.getElem?_eq_getElem bound⟩, of_decide_eq_true here⟩
  · rintro ⟨account, ⟨index, rfl, found⟩, rfl⟩
    obtain ⟨bound, rfl⟩ := List.getElem?_eq_some_iff.1 found
    refine ⟨index, ⟨bound, decide_eq_true rfl, fun earlier lt => ?_⟩, rfl⟩
    simpa using earlier_name_ne distinct bound lt

theorem find_of_get (distinct : store.names.Nodup) (h : store.get position = .ok account) :
    store.find account.name = .ok account := by
  obtain ⟨index, -, found⟩ := get_eq_ok_iff.1 h
  obtain ⟨bound, rfl⟩ := List.getElem?_eq_some_iff.1 found
  have first : store.accounts.find? (fun account => account.name = store.accounts[index].name) =
      some store.accounts[index] := by
    refine List.find?_eq_some_iff_getElem.2 ⟨decide_eq_true rfl, index, bound, rfl, ?_⟩
    intro earlier lt
    simpa using earlier_name_ne distinct bound lt
  rw [find, first]

theorem get_add (h : store.get position = .ok account) (other : Account) :
    (store.add other).get position = .ok account := by
  obtain ⟨index, rfl, found⟩ := get_eq_ok_iff.1 h
  have bound := (List.getElem?_eq_some_iff.1 found).1
  exact get_eq_ok_iff.2 ⟨index, rfl, (List.getElem?_append_left bound).trans found⟩

inductive Request where
  | new
  | load (files : FileTree) (path : Path)
  | create (name : String)

structure Keeper where
  store : Store
  seeds : Seeds

namespace Keeper

def serve (keeper : Keeper) : Request → Option StoreError × Keeper
  | .new => (none, { keeper with store := empty })
  | .load files path =>
    match Store.load files path with
    | .ok store => (none, { keeper with store })
    | .error error => (some error, keeper)
  | .create name =>
    match keeper.store.create keeper.seeds name with
    | .ok (store, seeds) => (none, ⟨store, seeds⟩)
    | .error error => (some error, keeper)

def serveAll (keeper : Keeper) (requests : List Request) : Keeper :=
  requests.foldl (fun keeper request => (keeper.serve request).2) keeper

variable {keeper : Keeper}

theorem reachable_serve (reachable : keeper.store.Reachable) (request : Request) :
    (keeper.serve request).2.store.Reachable := by
  cases request with
  | new => exact .empty
  | load files path =>
    cases loaded : Store.load files path with
    | ok store =>
      rw [serve, loaded]
      exact .load loaded
    | error error =>
      rw [serve, loaded]
      exact reachable
  | create name =>
    cases created : keeper.store.create keeper.seeds name with
    | ok made =>
      rw [serve, created]
      exact .create reachable created
    | error error =>
      rw [serve, created]
      exact reachable

theorem reachable_serveAll (reachable : keeper.store.Reachable) (requests : List Request) :
    (keeper.serveAll requests).store.Reachable := by
  induction requests generalizing keeper with
  | nil => exact reachable
  | cons request requests ih => exact ih (reachable_serve reachable request)

/-- What a creation comes to: one more account behind all others, or a refusal that changes
nothing and draws no seed. -/
def Creates (keeper : Keeper) (name : String) (error : Option StoreError) (next : Keeper) : Prop :=
  (error = none ∧ Text.isAllBlank name = false ∧ name ∉ keeper.store.names ∧
      next.store.accounts =
        keeper.store.accounts ++ [Account.generate keeper.seeds.next name] ∧
      next.seeds = keeper.seeds.rest ∧
      ∀ position account, keeper.store.get position = .ok account →
        next.store.get position = .ok account) ∨
    ((Text.isAllBlank name = true ∧ error = some (.blankName name) ∨
        Text.isAllBlank name = false ∧ name ∈ keeper.store.names ∧
          error = some (.duplicateName name)) ∧ next = keeper)

theorem creates_serve (keeper : Keeper) (name : String) :
    keeper.Creates name (keeper.serve (.create name)).1 (keeper.serve (.create name)).2 := by
  rw [serve]
  rcases keeper.store.create_cases keeper.seeds name with
    ⟨visible, free, created⟩ | ⟨blank, refused⟩ | ⟨visible, taken, refused⟩
  · rw [created]
    exact Or.inl ⟨rfl, visible, free, rfl, rfl, fun _ _ found => get_add found _⟩
  · rw [refused]
    exact Or.inr ⟨Or.inl ⟨blank, rfl⟩, rfl⟩
  · rw [refused]
    exact Or.inr ⟨Or.inr ⟨visible, taken, rfl⟩, rfl⟩

/-- In every store that requests lead to, names are distinct, keys are pairs, and positions, names
and the list of names agree; and the next creation adds one account at the end or nothing. -/
theorem positions_and_names_agree (seeds : Seeds) (requests : List Request) :
    let keeper := serveAll ⟨empty, seeds⟩ requests
    let store := keeper.store
    store.names.Nodup ∧
      (∀ account ∈ store.accounts,
        Ed25519.publicKey account.privateKey.seed = account.publicKey ∧
          account.privateKey.publicHalf = account.publicKey) ∧
      (∀ name position, store.positionOf? name = some position ↔
        ∃ account, store.get position = .ok account ∧ account.name = name) ∧
      (∀ position account, store.get position = .ok account →
        store.find account.name = .ok account ∧
          store.names[position - 1]? = some account.name) ∧
      (∀ position error, store.get position = .error error ↔
        error = .positionOutOfRange position store.size ∧
          (position = 0 ∨ store.size < position)) ∧
      ∀ name, keeper.Creates name (keeper.serve (.create name)).1
        (keeper.serve (.create name)).2 := by
  intro keeper store
  have sound : store.Sound := (reachable_serveAll .empty requests).sound
  refine ⟨sound.distinct, sound.paired, ?_, ?_, ?_, keeper.creates_serve⟩
  · exact fun _ _ => positionOf?_eq_some_iff sound.distinct
  · exact fun _ _ found => ⟨find_of_get sound.distinct found, names_of_get found⟩
  · exact fun _ _ => get_eq_error_iff

end Keeper

end LedgerWallet.Store
