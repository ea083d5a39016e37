import LedgerWallet.Json.Record
import LedgerWallet.Proofs.Json.Members

namespace LedgerWallet.Json

theorem required_eq_ok_iff {β : Type} {key : String} {given : Option β} {value : β} :
    required key given = .ok value ↔ given = some value := by
  cases given <;> simp [required]

theorem text_ofValue_eq_ok_iff {expected text : String} {value : Json} :
    (Shape.text expected).ofValue value = .ok text ↔ value = .string text := by
  constructor
  · intro h
    cases value with
    | string found =>
      cases h
      rfl
    | null | bool _ | number _ | array _ | object _ => cases h
  · rintro rfl
    rfl

theorem check_eq_ok_iff {range : Bounded} {number : Number} {n : Nat} :
    range.check number = .ok n ↔ number = .natural n ∧ n < range.bound := by
  cases number with
  | natural m =>
    rw [Bounded.check]
    constructor
    · intro h
      split at h
      · rename_i below
        cases h
        exact ⟨rfl, below⟩
      · cases h
    · rintro ⟨same, below⟩
      cases same
      exact if_pos below
  | negative m => simp [Bounded.check]
  | float value => simp [Bounded.check]

theorem bounded_ofValue_eq_ok_iff {range : Bounded} {value : Json} {n : Nat} :
    range.ofValue value = .ok n ↔ value = .number (.natural n) ∧ n < range.bound := by
  cases value with
  | number number => simp [Bounded.ofValue, check_eq_ok_iff]
  | null | bool _ | string _ | array _ | object _ => simp [Bounded.ofValue]

theorem word_ofValue_eq_ok_iff {value : Json} {word : UInt64} :
    Shape.word.ofValue value = .ok word ↔ value = .number (.natural word.toNat) := by
  constructor
  · intro h
    obtain ⟨n, read, rfl⟩ := map_ok h
    obtain ⟨rfl, below⟩ := bounded_ofValue_eq_ok_iff.1 read
    rw [UInt64.toNat_ofNat_of_lt' below]
  · rintro rfl
    have read : wordRange.ofValue (.number (.natural word.toNat)) = .ok word.toNat :=
      bounded_ofValue_eq_ok_iff.2 ⟨rfl, word.toNat_lt⟩
    simp only [Shape.word, read, Except.map, UInt64.ofNat_toNat]

theorem ofShape_ofValue_eq_ok_iff {δ β : Type} {key : String} {shape : Shape β}
    {get : δ → Option β} {set : β → δ → δ} {make : β → Json}
    (reads : ∀ {value b}, shape.ofValue value = .ok b ↔ value = make b) {draft next : δ}
    {value : Json} : (Member.ofShape key shape get set).ofValue draft value = .ok next ↔
      ∃ b, value = make b ∧ next = set b draft := by
  constructor
  · intro h
    obtain ⟨b, taken, rfl⟩ := map_ok h
    exact ⟨b, reads.1 taken, rfl⟩
  · rintro ⟨b, isValue, rfl⟩
    exact congrArg (Except.map (set · draft)) (reads.2 isValue)

/-- A value supplies members: an object has each of them, and a list consists of their values. -/
def Supplies (members : List (String × Json)) : Json → Prop
  | .object found => ∀ member ∈ members, lookup? member.1 found = some member.2
  | .array items => items = members.map Prod.snd
  | _ => False

namespace Record

variable {δ α β : Type} {r : Record δ α}

theorem member?_some {key : String} {m : Member δ} (h : r.member? key = some m) :
    m ∈ r.members ∧ m.key = key :=
  ⟨List.mem_of_find?_eq_some h, by simpa using List.find?_some h⟩

/-- A draft holds each value that was put into it under the key of its member, and what is read in
the end tells the same values under the same keys. -/
structure Faithful (r : Record δ α) (holds : δ → String → Option Json)
    (told : α → List (String × Json)) : Prop where
  distinct : (r.members.map Member.key).Nodup
  keys : ∀ a, (told a).map Prod.fst = r.members.map Member.key
  blank : ∀ m ∈ r.members, holds r.blank m.key = none
  given : ∀ m ∈ r.members, ∀ draft, m.isGiven draft = (holds draft m.key).isSome
  taken : ∀ m ∈ r.members, ∀ draft value next, m.ofValue draft value = .ok next →
    holds next m.key = some value ∧ ∀ key, key ≠ m.key → holds next key = holds draft key
  readable : ∀ a, ∀ member ∈ told a, ∀ m ∈ r.members, m.key = member.1 →
    ∀ draft, ∃ next, m.ofValue draft member.2 = .ok next
  complete : ∀ draft a,
    r.complete draft = .ok a ↔ ∀ member ∈ told a, holds draft member.1 = some member.2

variable {holds : δ → String → Option Json} {told : α → List (String × Json)}
  {members : List (String × Json)} {draft final : δ}

theorem Faithful.holds_of_ofMembers (faithful : r.Faithful holds told)
    (h : r.ofMembers members draft = .ok final) {m : Member δ} (mem : m ∈ r.members) :
    holds final m.key = (holds draft m.key).or (lookup? m.key members) ∧
      (holds draft m.key = none ∨ lookup? m.key members = none) := by
  induction members generalizing draft with
  | nil =>
    cases h
    exact ⟨Option.or_none.symm, Or.inr rfl⟩
  | cons member members ih =>
    obtain ⟨k, v⟩ := member
    rw [lookup?_cons]
    rw [ofMembers] at h
    split at h
    · rename_i unknown
      have differs : k ≠ m.key := by
        rintro rfl
        exact absurd (List.find?_eq_none.1 unknown m mem) (by simp)
      rw [if_neg differs]
      exact ih h
    · rename_i found known
      obtain ⟨mem', rfl⟩ := member?_some known
      split at h
      · cases h
      · rename_i fresh
        obtain ⟨next, read, h⟩ := bind_ok h
        obtain ⟨put, others⟩ := faithful.taken found mem' draft v next read
        obtain ⟨later, once⟩ := ih h
        by_cases same : found.key = m.key
        · have empty : holds draft m.key = none := by
            rw [faithful.given found mem', same] at fresh
            simpa using fresh
          rw [← same, put] at later
          rw [if_pos same, empty, ← same, later]
          exact ⟨rfl, Or.inl rfl⟩
        · rw [others m.key (Ne.symm same)] at later once
          rw [if_neg same]
          exact ⟨later, once⟩

theorem Faithful.ofMembers_total (faithful : r.Faithful holds told) (draft : δ)
    (distinct : (members.map Prod.fst).Nodup)
    (fresh : ∀ m ∈ r.members, m.key ∈ members.map Prod.fst → holds draft m.key = none)
    (readable : ∀ m ∈ r.members, ∀ value, (m.key, value) ∈ members →
      ∀ draft, ∃ next, m.ofValue draft value = .ok next) :
    ∃ final, r.ofMembers members draft = .ok final := by
  induction members generalizing draft with
  | nil => exact ⟨draft, rfl⟩
  | cons member members ih =>
    obtain ⟨k, v⟩ := member
    obtain ⟨new, later⟩ := List.nodup_cons.1 distinct
    have others : ∀ m ∈ r.members, ∀ value, (m.key, value) ∈ members →
        ∀ draft, ∃ next, m.ofValue draft value = .ok next :=
      fun m mem value found => readable m mem value (List.mem_cons_of_mem _ found)
    rw [ofMembers]
    cases known : r.member? k with
    | none =>
      exact ih draft later (fun m mem there => fresh m mem (List.mem_cons_of_mem _ there)) others
    | some m =>
      obtain ⟨mem, rfl⟩ := member?_some known
      obtain ⟨next, read⟩ := readable m mem v List.mem_cons_self draft
      have untouched : ∀ other ∈ r.members, other.key ∈ members.map Prod.fst →
          holds next other.key = none := by
        intro other mem' there
        have differs : other.key ≠ m.key := fun same => new (same ▸ there)
        rw [(faithful.taken m mem draft v next read).2 other.key differs]
        exact fresh other mem' (List.mem_cons_of_mem _ there)
      obtain ⟨final, more⟩ := ih next later untouched others
      have notGiven : m.isGiven draft = false := by
        rw [faithful.given m mem, fresh m mem List.mem_cons_self, Option.isSome_none]
      refine ⟨final, ?_⟩
      simp only [notGiven, Bool.false_eq_true, ↓reduceIte, read, bind, Except.bind]
      exact more

theorem ofItems_counts {ms : List (Member δ)} {count used : Nat} {items left : List Json}
    (h : ofItems ms count items draft = .ok (final, used, left)) :
    used = count + min ms.length items.length ∧ left = items.drop ms.length := by
  induction ms generalizing count items draft with
  | nil =>
    cases h
    simp
  | cons m ms ih =>
    cases items with
    | nil =>
      cases h
      simp
    | cons value items =>
      obtain ⟨next, _, h⟩ := bind_ok h
      obtain ⟨rfl, rfl⟩ := ih h
      simp only [List.length_cons, List.drop_succ_cons, and_true]
      omega

theorem ofValue_array_eq_ok_iff (full : r.mayBeShort = false) {items : List Json} {value : α} :
    r.ofValue (.array items) = .ok value ↔
      items.length = r.members.length ∧
        ∃ final, ofItems r.members 0 items r.blank = .ok (final, items.length, []) ∧
          r.complete final = .ok value := by
  constructor
  · intro h
    obtain ⟨⟨final, used, left⟩, read, h⟩ := bind_ok h
    obtain ⟨rfl, rfl⟩ := ofItems_counts read
    dsimp only at h
    split at h
    · cases h
    · rename_i enough
      obtain ⟨found, complete, h⟩ := bind_ok h
      split at h
      · rename_i nothing
        cases h
        have short : items.length ≤ r.members.length := by simpa using nothing
        have same : items.length = r.members.length := by
          simp only [full, Bool.not_false, and_true] at enough
          omega
        refine ⟨same, final, ?_, complete⟩
        rw [read, same, Nat.min_self, Nat.zero_add, ← same, List.drop_length]
      · cases h
  · rintro ⟨same, final, read, complete⟩
    simp only [ofValue, read, complete, same, bind, Except.bind, Nat.lt_irrefl, false_and,
      ↓reduceIte, List.isEmpty_nil]

theorem Faithful.holds_of_ofItems (faithful : r.Faithful holds told) {ms : List (Member δ)}
    (sub : ∀ m ∈ ms, m ∈ r.members) (distinct : (ms.map Member.key).Nodup) {count used : Nat}
    {items left : List Json} (h : ofItems ms count items draft = .ok (final, used, left)) :
    (∀ p ∈ ms.zip items, holds final p.1.key = some p.2) ∧
      ∀ key, key ∉ ms.map Member.key → holds final key = holds draft key := by
  induction ms generalizing count items draft with
  | nil =>
    cases h
    exact ⟨by simp, fun _ _ => rfl⟩
  | cons m ms ih =>
    cases items with
    | nil =>
      cases h
      exact ⟨by simp, fun _ _ => rfl⟩
    | cons value items =>
      obtain ⟨new, later⟩ := List.nodup_cons.1 distinct
      obtain ⟨next, read, h⟩ := bind_ok h
      obtain ⟨put, others⟩ := faithful.taken m (sub m List.mem_cons_self) draft value next read
      obtain ⟨filled, kept⟩ := ih (fun m mem => sub m (List.mem_cons_of_mem _ mem)) later h
      constructor
      · intro p mem
        rcases List.mem_cons.1 mem with rfl | mem
        · rw [kept m.key new, put]
        · exact filled p mem
      · intro key absent
        obtain ⟨differs, absent⟩ := not_or.1 (mt List.mem_cons.2 absent)
        rw [kept key absent, others key differs]

theorem ofItems_total {ms : List (Member δ)} {items : List Json} (count : Nat) (draft : δ)
    (readable : ∀ p ∈ ms.zip items, ∀ draft, ∃ next, p.1.ofValue draft p.2 = .ok next) :
    ∃ result, ofItems ms count items draft = .ok result := by
  induction ms generalizing count items draft with
  | nil => exact ⟨_, rfl⟩
  | cons m ms ih =>
    cases items with
    | nil => exact ⟨_, rfl⟩
    | cons value items =>
      obtain ⟨next, read⟩ := readable (m, value) List.mem_cons_self draft
      dsimp only at read
      obtain ⟨result, more⟩ := ih (count + 1) next
        fun p mem => readable p (List.mem_cons_of_mem _ mem)
      refine ⟨result, ?_⟩
      simp only [ofItems, read, bind, Except.bind]
      exact more

theorem Faithful.ofValue_object (faithful : r.Faithful holds told) (ascending : Ascending members)
    {a : α} :
    r.ofValue (.object members) = .ok a ↔
      ∀ member ∈ told a, lookup? member.1 members = some member.2 := by
  -- What stands under a key in the end is what the object has for it.
  have looked : ∀ {final}, r.ofMembers members r.blank = .ok final →
      ∀ member ∈ told a, holds final member.1 = lookup? member.1 members := by
    intro final read member mem
    have key : member.1 ∈ r.members.map Member.key :=
      faithful.keys a ▸ List.mem_map_of_mem mem
    obtain ⟨m, mem, same⟩ := List.mem_map.1 key
    rw [← same, (faithful.holds_of_ofMembers read mem).1, faithful.blank m mem, Option.none_or]
  constructor
  · intro h
    obtain ⟨final, read, complete⟩ := bind_ok h
    intro member mem
    rw [← looked read member mem]
    exact (faithful.complete final a).1 complete member mem
  · intro supplies
    obtain ⟨final, read⟩ := faithful.ofMembers_total r.blank ascending.nodup
      (fun m mem _ => faithful.blank m mem) (by
        intro m mem value found
        have key : m.key ∈ (told a).map Prod.fst := faithful.keys a ▸ List.mem_map_of_mem mem
        obtain ⟨member, wanted, same⟩ := List.mem_map.1 key
        have unique := lookup?_of_mem ascending.nodup found
        rw [← same, supplies member wanted] at unique
        cases unique
        exact faithful.readable a member wanted m mem same.symm)
    have complete : r.complete final = .ok a := by
      refine (faithful.complete final a).2 fun member mem => ?_
      rw [looked read member mem, supplies member mem]
    rw [ofValue, read]
    exact complete

theorem Faithful.ofValue_array (faithful : r.Faithful holds told) (full : r.mayBeShort = false)
    {items : List Json} {a : α} :
    r.ofValue (.array items) = .ok a ↔ items = (told a).map Prod.snd := by
  rw [ofValue_array_eq_ok_iff full]
  constructor
  · rintro ⟨length, final, read, complete⟩
    have filled := (faithful.holds_of_ofItems (fun _ mem => mem) faithful.distinct read).1
    have tells := (faithful.complete final a).1 complete
    have firsts : (r.members.zip items).map Prod.fst = r.members :=
      List.map_fst_zip (Nat.le_of_eq length.symm)
    have seconds : (r.members.zip items).map Prod.snd = items :=
      List.map_snd_zip (Nat.le_of_eq length)
    -- What the draft holds under the keys, in their order, is both lists.
    have values : items.map some = ((told a).map Prod.snd).map some := by
      calc items.map some
          = ((r.members.zip items).map Prod.snd).map some := by rw [seconds]
        _ = ((r.members.zip items).map Prod.fst).map (fun m => holds final m.key) := by
            rw [List.map_map, List.map_map]
            exact List.map_congr_left fun p mem => (filled p mem).symm
        _ = (r.members.map Member.key).map (holds final) := by
            rw [firsts, List.map_map]
            rfl
        _ = ((told a).map Prod.snd).map some := by
            rw [← faithful.keys a, List.map_map, List.map_map]
            exact List.map_congr_left tells
    exact (List.map_inj_right fun _ _ same => Option.some.inj same).1 values
  · rintro rfl
    have length : ((told a).map Prod.snd).length = r.members.length := by
      rw [List.length_map, ← List.length_map Prod.fst, faithful.keys a, List.length_map]
    have pairs : (r.members.zip ((told a).map Prod.snd)).map (fun p => (p.1.key, p.2)) = told a := by
      have zipped := List.zip_of_prod (faithful.keys a) (Eq.refl ((told a).map Prod.snd))
      rw [List.zip_map_left] at zipped
      exact zipped.symm
    obtain ⟨⟨final, used, left⟩, read⟩ := ofItems_total 0 r.blank (by
      intro p mem
      have wanted : (p.1.key, p.2) ∈ told a := pairs ▸ List.mem_map_of_mem mem
      exact faithful.readable a _ wanted p.1 (List.of_mem_zip mem).1 rfl)
    have filled := (faithful.holds_of_ofItems (fun _ mem => mem) faithful.distinct read).1
    obtain ⟨rfl, rfl⟩ := ofItems_counts read
    refine ⟨length, final, ?_, (faithful.complete final a).2 ?_⟩
    · rw [read, length, Nat.min_self, Nat.zero_add, ← length, List.drop_length]
    · intro member mem
      obtain ⟨p, zipped, rfl⟩ := List.mem_map.1 (pairs ▸ mem)
      exact filled p zipped

theorem Faithful.ofValue_eq_ok_iff (faithful : r.Faithful holds told)
    (full : r.mayBeShort = false) {value : Json} (ascend : value.KeysAscend) {a : α} :
    r.ofValue value = .ok a ↔ value.Supplies (told a) := by
  cases value with
  | object members => exact faithful.ofValue_object ascend
  | array items => exact faithful.ofValue_array full
  | null | bool _ | number _ | string _ => simp [ofValue, Supplies]

end Record

end LedgerWallet.Json
