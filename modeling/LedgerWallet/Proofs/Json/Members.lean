import LedgerWallet.Json.Parser
import LedgerWallet.Proofs.Results

namespace LedgerWallet.Json

def last? (key : String) : List (String × Json) → Option Json
  | [] => none
  | (k, v) :: rest => (last? key rest).or (if k = key then some v else none)

theorem lookup?_cons (key k : String) (value : Json) (members : List (String × Json)) :
    lookup? key ((k, value) :: members) =
      if k = key then some value else lookup? key members := by
  by_cases same : k = key <;> simp [lookup?, same]

theorem lookup?_of_mem {key : String} {value : Json} {members : List (String × Json)}
    (distinct : (members.map Prod.fst).Nodup) (member : (key, value) ∈ members) :
    lookup? key members = some value := by
  induction members with
  | nil => cases member
  | cons first members ih =>
    obtain ⟨k, v⟩ := first
    obtain ⟨new, later⟩ := List.nodup_cons.1 distinct
    rw [lookup?_cons]
    rcases List.mem_cons.1 member with same | member
    · cases same
      exact if_pos rfl
    · have differs : k ≠ key := fun same => new (List.mem_map.2 ⟨_, member, same.symm⟩)
      rw [if_neg differs]
      exact ih later member

theorem lookup?_insertMember (key k : String) (value : Json) (members : List (String × Json)) :
    lookup? key (insertMember k value members) =
      if k = key then some value else lookup? key members := by
  induction members with
  | nil => exact lookup?_cons key k value []
  | cons member members ih =>
    obtain ⟨other, found⟩ := member
    rw [insertMember]
    split
    · exact lookup?_cons key k value _
    · split
      · rename_i same
        subst same
        simp only [lookup?_cons]
        split <;> rfl
      · rename_i differs
        rw [lookup?_cons, ih, lookup?_cons]
        by_cases same : other = key
        · rw [if_pos same, if_pos same, if_neg (same ▸ differs)]
        · rw [if_neg same, if_neg same]

theorem lookup?_sortMembers (key : String) (fields : List (String × Json)) :
    lookup? key (sortMembers fields) = last? key fields := by
  have onward : ∀ (fields sorted : List (String × Json)),
      lookup? key (fields.foldl (fun sorted m => insertMember m.1 m.2 sorted) sorted) =
        (last? key fields).or (lookup? key sorted) := by
    intro fields
    induction fields with
    | nil => exact fun sorted => rfl
    | cons field fields ih =>
      intro sorted
      rw [List.foldl_cons, ih, lookup?_insertMember, last?]
      cases last? key fields with
      | some later => rfl
      | none => by_cases same : field.1 = key <;> simp [same]
  rw [sortMembers, onward fields []]
  exact Option.or_none

def Ascending (members : List (String × Json)) : Prop :=
  members.Pairwise fun m later => m.1 < later.1

theorem ascending_iff_keys {members : List (String × Json)} :
    Ascending members ↔ (members.map Prod.fst).Pairwise (· < ·) :=
  List.pairwise_map.symm

theorem Ascending.nodup {members : List (String × Json)} (h : Ascending members) :
    (members.map Prod.fst).Nodup :=
  List.pairwise_map.2 (h.imp String.ne_of_lt)

theorem keys_insertMember {key k : String} {value : Json} {members : List (String × Json)}
    (member : k ∈ (insertMember key value members).map Prod.fst) :
    k = key ∨ k ∈ members.map Prod.fst := by
  induction members with
  | nil => simpa [insertMember] using member
  | cons first members ih =>
    rw [insertMember] at member
    split at member
    · simpa using member
    · split at member
      · simp only [List.map_cons, List.mem_cons] at member ⊢
        exact member.imp_right Or.inr
      · simp only [List.map_cons, List.mem_cons] at member ⊢
        rcases member with same | member
        · exact Or.inr (Or.inl same)
        · exact (ih member).imp_right Or.inr

theorem ascending_insertMember (key : String) (value : Json) {members : List (String × Json)}
    (h : Ascending members) : Ascending (insertMember key value members) := by
  induction members with
  | nil => exact List.pairwise_singleton _ _
  | cons first members ih =>
    obtain ⟨before, others⟩ := List.pairwise_cons.1 h
    rw [insertMember]
    split
    · rename_i less
      refine List.pairwise_cons.2 ⟨fun m member => ?_, h⟩
      rcases List.mem_cons.1 member with rfl | member
      · exact less
      · exact String.lt_trans less (before m member)
    · split
      · rename_i same
        exact List.pairwise_cons.2 ⟨fun m member => same ▸ before m member, others⟩
      · rename_i notLess differs
        refine List.pairwise_cons.2 ⟨fun m member => ?_, ih others⟩
        rcases keys_insertMember (List.mem_map_of_mem member) with same | member
        · rw [same]
          grind
        · obtain ⟨m', member', same⟩ := List.mem_map.1 member
          exact same ▸ before m' member'

theorem ascending_sortMembers (fields : List (String × Json)) :
    Ascending (sortMembers fields) := by
  have onward : ∀ (fields sorted : List (String × Json)), Ascending sorted →
      Ascending (fields.foldl (fun sorted m => insertMember m.1 m.2 sorted) sorted) := by
    intro fields
    induction fields with
    | nil => exact fun sorted h => h
    | cons field fields ih =>
      intro sorted h
      exact ih _ (ascending_insertMember field.1 field.2 h)
  exact onward fields [] List.Pairwise.nil

theorem insertMember_last {key : String} {value : Json} {members : List (String × Json)}
    (h : Ascending (members ++ [(key, value)])) :
    insertMember key value members = members ++ [(key, value)] := by
  induction members with
  | nil => rfl
  | cons first members ih =>
    obtain ⟨before, others⟩ := List.pairwise_cons.1 h
    have less : first.1 < key := before (key, value) (by simp)
    rw [insertMember, if_neg (String.lt_asymm less), if_neg (String.ne_of_lt less).symm, ih others]
    rfl

theorem sortMembers_of_ascending {members : List (String × Json)} (h : Ascending members) :
    sortMembers members = members := by
  have onward : ∀ (fields sorted : List (String × Json)), Ascending (sorted ++ fields) →
      fields.foldl (fun sorted m => insertMember m.1 m.2 sorted) sorted = sorted ++ fields := by
    intro fields
    induction fields with
    | nil => exact fun sorted _ => (List.append_nil sorted).symm
    | cons field fields ih =>
      intro sorted h
      have split : sorted ++ field :: fields = sorted ++ [field] ++ fields := by simp
      have sofar : Ascending (sorted ++ [field]) := (List.pairwise_append.1 (split ▸ h)).1
      rw [List.foldl_cons, insertMember_last sofar, split]
      exact ih _ (split ▸ h)
  exact onward members [] h

def readFields (depth : Nat) : Reader (List (String × Json)) := fun chars =>
  match skipSpace chars with
  | '{' :: rest => do
    let (fields, rest) ← readMembers (readValue depth) (rest.length + 1) true rest
    return (fields, ← closeObject rest)
  | rest => failBehind .expectedValue rest

def fieldsOf (text : String) : Except Error (List (String × Json)) :=
  readAll (readFields (depthLimit - 1)) text

theorem readAll_eq_ok_iff {α : Type} {reader : Reader α} {text : String} {value : α} :
    readAll reader text = .ok value ↔
      ∃ rest, reader text.toList = .ok (value, rest) ∧ finish rest = .ok () := by
  constructor
  · intro h
    obtain ⟨⟨found, rest⟩, read, h⟩ := bind_ok (mapError_ok h)
    obtain ⟨⟨⟩, ends, h⟩ := bind_ok h
    cases h
    exact ⟨rest, read, ends⟩
  · rintro ⟨rest, read, ends⟩
    simp only [readAll, read, ends, bind, Except.bind]
    rfl

theorem readFields_eq_ok_iff {depth : Nat} {chars rest : List Char}
    {fields : List (String × Json)} :
    readFields depth chars = .ok (fields, rest) ↔
      ∃ inside behind, skipSpace chars = '{' :: inside ∧
        readMembers (readValue depth) (inside.length + 1) true inside = .ok (fields, behind) ∧
        closeObject behind = .ok rest := by
  constructor
  · intro h
    unfold readFields at h
    split at h
    · rename_i inside brace
      obtain ⟨⟨found, behind⟩, read, h⟩ := bind_ok h
      obtain ⟨left, close, h⟩ := bind_ok h
      cases h
      exact ⟨inside, behind, brace, read, close⟩
    · cases h
  · rintro ⟨inside, behind, brace, read, close⟩
    simp only [readFields, brace, read, close, bind, Except.bind]
    rfl

theorem readValue_object {limit : Nat} {chars rest : List Char} {members : List (String × Json)}
    (h : readValue limit chars = .ok (.object members, rest)) :
    ∃ depth fields, limit = depth + 1 ∧ readFields depth chars = .ok (fields, rest) ∧
      sortMembers fields = members := by
  unfold readValue at h
  split at h
  · cases h
  · obtain ⟨left, _, h⟩ := bind_ok h
    cases h
  · obtain ⟨left, _, h⟩ := bind_ok h
    cases h
  · obtain ⟨left, _, h⟩ := bind_ok h
    cases h
  · obtain ⟨left, _, h⟩ := bind_ok h
    cases h
  · split at h
    · cases h
    · obtain ⟨found, _, h⟩ := bind_ok h
      obtain ⟨left, _, h⟩ := bind_ok h
      cases h
  · rename_i inside brace
    split at h
    · cases h
    · rename_i depth
      obtain ⟨⟨fields, behind⟩, read, h⟩ := bind_ok h
      obtain ⟨left, close, h⟩ := bind_ok h
      cases h
      exact ⟨depth, fields, rfl, readFields_eq_ok_iff.2 ⟨inside, behind, brace, read, close⟩, rfl⟩
  · split at h
    · obtain ⟨number, _, h⟩ := bind_ok h
      cases h
    · cases h

theorem readValue_of_readFields {depth : Nat} {chars rest : List Char}
    {fields : List (String × Json)} (h : readFields depth chars = .ok (fields, rest)) :
    readValue (depth + 1) chars = .ok (.object (sortMembers fields), rest) := by
  obtain ⟨inside, behind, brace, read, close⟩ := readFields_eq_ok_iff.1 h
  unfold readValue
  simp only [brace, read, close, bind, Except.bind]
  rfl

theorem parse_eq_object_iff {text : String} {members : List (String × Json)} :
    parse text = .ok (.object members) ↔
      ∃ fields, fieldsOf text = .ok fields ∧ sortMembers fields = members := by
  simp only [parse, fieldsOf, readAll_eq_ok_iff]
  constructor
  · rintro ⟨rest, read, ends⟩
    obtain ⟨depth, fields, limit, read, sorted⟩ := readValue_object read
    have same : depthLimit - 1 = depth := by omega
    exact ⟨fields, ⟨rest, same ▸ read, ends⟩, sorted⟩
  · rintro ⟨fields, ⟨rest, read, ends⟩, rfl⟩
    exact ⟨rest, readValue_of_readFields read, ends⟩

def KeysAscend : Json → Prop
  | .object members => Ascending members
  | _ => True

theorem keysAscend_of_readValue {limit : Nat} {chars rest : List Char} {value : Json}
    (h : readValue limit chars = .ok (value, rest)) : value.KeysAscend := by
  cases value with
  | object members =>
    obtain ⟨depth, fields, _, _, rfl⟩ := readValue_object h
    exact ascending_sortMembers fields
  | null | bool _ | number _ | string _ | array _ => exact trivial

theorem read_of_mem_readMembers {item : Reader Json} {fuel : Nat} {isFirst : Bool}
    {chars rest : List Char} {members : List (String × Json)} {member : String × Json}
    (h : readMembers item fuel isFirst chars = .ok (members, rest)) (mem : member ∈ members) :
    ∃ front behind, item front = .ok (member.2, behind) := by
  induction fuel generalizing isFirst chars members with
  | zero => cases h
  | succ fuel ih =>
    obtain ⟨next, _, h⟩ := bind_ok h
    cases next with
    | none =>
      cases h
      cases mem
    | some front =>
      obtain ⟨⟨key, behind⟩, _, h⟩ := bind_ok h
      obtain ⟨front, _, h⟩ := bind_ok h
      obtain ⟨⟨value, behind⟩, read, h⟩ := bind_ok h
      obtain ⟨⟨others, left⟩, more, h⟩ := bind_ok h
      cases h
      rcases List.mem_cons.1 mem with rfl | mem
      · exact ⟨front, behind, read⟩
      · exact ih more mem

theorem mem_of_last? {key : String} {value : Json} {fields : List (String × Json)}
    (h : last? key fields = some value) : (key, value) ∈ fields := by
  induction fields with
  | nil => cases h
  | cons field fields ih =>
    rcases Option.or_eq_some_iff.1 h with later | ⟨_, here⟩
    · exact List.mem_cons_of_mem _ (ih later)
    · obtain ⟨rfl, rfl⟩ : field.1 = key ∧ field.2 = value := by simpa using here
      exact List.mem_cons_self

theorem keysAscend_of_fieldsOf {text key : String} {value : Json} {fields : List (String × Json)}
    (h : fieldsOf text = .ok fields) (found : last? key fields = some value) :
    value.KeysAscend := by
  obtain ⟨rest, read, _⟩ := readAll_eq_ok_iff.1 h
  obtain ⟨inside, behind, _, read, _⟩ := readFields_eq_ok_iff.1 read
  obtain ⟨front, left, read⟩ := read_of_mem_readMembers read (mem_of_last? found)
  exact keysAscend_of_readValue read

end LedgerWallet.Json
