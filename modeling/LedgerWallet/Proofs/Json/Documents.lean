import LedgerWallet.Proofs.Json.Recognition
import LedgerWallet.Proofs.Json.Records

namespace LedgerWallet.Json

variable {α γ δ : Type} {isFirst : Bool} {fuel : Nat} {chars rest text : List Char}

namespace Record

variable {r : Record δ α} {valueText : List Char → γ → Prop}
  {spells : String → List Char → γ → Prop} {put : String → γ → δ → δ}
  {holds : δ → String → Option γ} {told : α → List (String × γ)} {draft final : δ}
  {fields : List (String × List Char)} {body : List Char} {texts : List (List Char)}

/-- Fields in their order, which take a draft to another one. -/
inductive Fills (r : Record δ α) (spells : String → List Char → γ → Prop)
    (put : String → γ → δ → δ) : δ → List (String × List Char) → δ → Prop
  | nil (draft : δ) : Fills r spells put draft [] draft
  | known {draft final : δ} {key : String} {text : List Char} {m : Member δ} {value : γ}
      {fields : List (String × List Char)} : r.member? key = some m → m.isGiven draft = false →
      spells key text value → Fills r spells put (put key value draft) fields final →
      Fills r spells put draft ((key, text) :: fields) final
  | other {draft final : δ} {key : String} {text : List Char}
      {fields : List (String × List Char)} : r.member? key = none → ValueText text →
      Fills r spells put draft fields final →
      Fills r spells put draft ((key, text) :: fields) final

/-- Each member is read from the texts that spell a value of it, and a draft holds what was put
into it under the keys. -/
structure Keyed (r : Record δ α) (spells : String → List Char → γ → Prop)
    (put : String → γ → δ → δ) (holds : δ → String → Option γ) : Prop where
  reads : ∀ m ∈ r.members, ∀ draft, Accepts (m.read draft) fun text next =>
    ∃ value, spells m.key text value ∧ next = put m.key value draft
  blank : ∀ key, holds r.blank key = none
  given : ∀ m ∈ r.members, ∀ draft, m.isGiven draft = (holds draft m.key).isSome
  put : ∀ m ∈ r.members, ∀ {text value}, spells m.key text value → ∀ draft,
    holds (put m.key value draft) m.key = some value ∧
      ∀ key, key ≠ m.key → holds (put m.key value draft) key = holds draft key

/-- The members of a record are read alike, a draft holds what was put into it under their keys, and
what is read in the end tells the same values under the same keys. -/
structure Legible (r : Record δ α) (valueText : List Char → γ → Prop) (put : String → γ → δ → δ)
    (holds : δ → String → Option γ) (told : α → List (String × γ)) : Prop where
  distinct : (r.members.map Member.key).Nodup
  full : r.mayBeShort = false
  keys : ∀ a, (told a).map Prod.fst = r.members.map Member.key
  begins : ∀ text value, valueText text value → Begins text
  reads : ∀ m ∈ r.members, ∀ draft, Recognizes (m.read draft) fun text next =>
    ∃ value, valueText text value ∧ next = put m.key value draft
  blank : ∀ key, holds r.blank key = none
  given : ∀ m ∈ r.members, ∀ draft, m.isGiven draft = (holds draft m.key).isSome
  put : ∀ m ∈ r.members, ∀ value draft, holds (put m.key value draft) m.key = some value ∧
    ∀ key, key ≠ m.key → holds (put m.key value draft) key = holds draft key
  complete : ∀ draft a,
    r.complete draft = .ok a ↔ ∀ member ∈ told a, holds draft member.1 = some member.2

theorem Legible.keyed (legible : r.Legible valueText put holds told) :
    r.Keyed (fun _ => valueText) put holds :=
  ⟨fun m mem draft => (legible.reads m mem draft).accepts, legible.blank, legible.given,
    fun m mem _ value _ draft => legible.put m mem value draft⟩

theorem readObject_sound {left : List Char} (keyed : r.Keyed spells put holds)
    (h : r.readObject fuel isFirst draft chars = .ok (final, left))
    (closed : closeObject left = .ok rest) :
    ∃ body texts fields, Parts isFirst body texts ∧
      List.Forall₂ (MemberText StringText) texts fields ∧
      Fills r spells put draft fields final ∧ chars = body ++ '}' :: rest := by
  induction fuel generalizing isFirst chars draft with
  | zero => cases h
  | succ fuel ih =>
    obtain ⟨next, found, h⟩ := bind_ok h
    cases next with
    | none =>
      cases h
      obtain ⟨space, blank, rfl⟩ := closeObject_eq_ok_iff.1 closed
      exact ⟨space, [], [], .nil blank, .nil, .nil final, rfl⟩
    | some behind =>
      obtain ⟨⟨key, behind'⟩, read, taken⟩ := bind_ok h
      obtain ⟨gap, isGap, rfl⟩ := nextKey?_some found
      obtain ⟨spelled, isKey, rfl⟩ := readString_eq_ok_iff.1 read
      have keyText : StringText ('"' :: (spelled ++ ['"'])) key := ⟨spelled, isKey, rfl⟩
      dsimp only at taken
      split at taken
      · rename_i unknown
        obtain ⟨passed, colon, taken⟩ := bind_ok taken
        obtain ⟨left', skipped, more⟩ := bind_ok taken
        obtain ⟨space, blank, rfl⟩ := passColon_eq_ok_iff.1 colon
        obtain ⟨space', text, blank', isValue, rfl⟩ := valueText_of_skipValue skipped
        obtain ⟨body, texts, fields, parts, members, fills, rfl⟩ := ih more
        refine ⟨gap ++ ('"' :: (spelled ++ ['"']) ++ space ++ ':' :: (space' ++ text)) ++ body,
          _ :: texts, (key, text) :: fields, .cons isGap parts, .cons ?_ members,
          .other unknown isValue fills, ?_⟩
        · exact ⟨_, space, space', keyText, blank, blank', rfl⟩
        · simp
      · rename_i m known
        split at taken
        · cases taken
        · rename_i fresh
          obtain ⟨passed, colon, taken⟩ := bind_ok taken
          obtain ⟨⟨next, left'⟩, filled, more⟩ := bind_ok taken
          obtain ⟨mem, rfl⟩ := member?_some known
          obtain ⟨space, blank, rfl⟩ := passColon_eq_ok_iff.1 colon
          obtain ⟨space', text, blank', ⟨value, isValue, rfl⟩, rfl⟩ :=
            (keyed.reads m mem draft).sound filled
          obtain ⟨body, texts, fields, parts, members, fills, rfl⟩ := ih more
          refine ⟨gap ++ ('"' :: (spelled ++ ['"']) ++ space ++ ':' :: (space' ++ text)) ++ body,
            _ :: texts, (m.key, text) :: fields, .cons isGap parts, .cons ?_ members,
            .known known (by simpa using fresh) isValue fills, ?_⟩
          · exact ⟨_, space, space', keyText, blank, blank', rfl⟩
          · simp

theorem readObject_complete (keyed : r.Keyed spells put holds)
    (parts : Parts isFirst body texts)
    (members : List.Forall₂ (MemberText StringText) texts fields)
    (fills : Fills r spells put draft fields final) (enough : texts.length < fuel)
    (rest : List Char) :
    ∃ left, r.readObject fuel isFirst draft (body ++ '}' :: rest) = .ok (final, left) ∧
      closeObject left = .ok rest := by
  induction parts generalizing fuel fields draft with
  | @nil isFirst space blank =>
    cases members
    cases fills
    cases fuel with
    | zero => omega
    | succ fuel =>
      refine ⟨space ++ '}' :: rest, ?_, closeObject_eq_ok_iff.2 ⟨space, blank, rfl⟩⟩
      rw [readObject, nextKey?_close isFirst blank]
      rfl
  | @cons isFirst gap text more texts isGap parts ih =>
    cases members with
    | @cons _ field _ fields member others =>
      obtain ⟨_, space, space', ⟨spelled, isKey, rfl⟩, blank, blank', rfl⟩ := member
      obtain ⟨key, value⟩ := field
      cases fuel with
      | zero => omega
      | succ fuel =>
        have fewer : texts.length < fuel := by
          rw [List.length_cons] at enough
          omega
        have stop : Delimited (more ++ '}' :: rest) :=
          parts.delimited (delimited_mark (Or.inr (Or.inr rfl)) rest)
        have next := nextKey?_gap isGap
          (spelled ++ '"' :: (space ++ ':' :: (space' ++ value ++ (more ++ '}' :: rest))))
        have read : readString
            (spelled ++ '"' :: (space ++ ':' :: (space' ++ value ++ (more ++ '}' :: rest)))) =
              .ok (key, space ++ ':' :: (space' ++ value ++ (more ++ '}' :: rest))) :=
          readString_eq_ok_iff.2 ⟨spelled, isKey, rfl⟩
        have colon := passColon_eq_ok_iff.2
          ⟨space, blank, Eq.refl (space ++ ':' :: (space' ++ value ++ (more ++ '}' :: rest)))⟩
        have shape : gap ++ ('"' :: (spelled ++ ['"']) ++ space ++ ':' :: (space' ++ value)) ++
            more ++ '}' :: rest = gap ++ '"' :: (spelled ++
              '"' :: (space ++ ':' :: (space' ++ value ++ (more ++ '}' :: rest)))) := by simp
        rw [shape]
        cases fills with
        | @known _ _ _ _ m value' _ known fresh isValue fills =>
          obtain ⟨mem, rfl⟩ := member?_some known
          obtain ⟨left, later, closed⟩ := ih others fills fewer
          have taken := (keyed.reads m mem draft).complete blank' ⟨value', isValue, rfl⟩ stop
          refine ⟨left, ?_, closed⟩
          simp only [readObject, next, read, known, fresh, colon, taken, later, bind, Except.bind,
            Bool.false_eq_true, ↓reduceIte]
        | other unknown isValue fills =>
          obtain ⟨left, later, closed⟩ := ih others fills fewer
          have skipped := skipValue_of_valueText blank' isValue stop
          refine ⟨left, ?_, closed⟩
          simp only [readObject, next, read, unknown, colon, skipped, later, bind, Except.bind]

theorem Legible.unique (legible : r.Legible valueText put holds told) {m : Member δ}
    (mem : m ∈ r.members) {first second : γ} (isFirst : valueText text first)
    (isSecond : valueText text second) : first = second := by
  have same : put m.key first r.blank = put m.key second r.blank :=
    (legible.reads m mem r.blank).unique ⟨first, isFirst, rfl⟩ ⟨second, isSecond, rfl⟩
  have held := (legible.put m mem first r.blank).1
  rw [same, (legible.put m mem second r.blank).1] at held
  exact (Option.some.inj held).symm

theorem Fills.others (fills : Fills r spells put draft fields final) :
    ∀ field ∈ fields, r.member? field.1 = none → ValueText field.2 := by
  induction fills with
  | nil => simp
  | known known _ _ _ ih =>
    refine List.forall_mem_cons.2 ⟨fun unknown => ?_, ih⟩
    rw [known] at unknown
    cases unknown
  | other _ isValue _ ih => exact List.forall_mem_cons.2 ⟨fun _ => isValue, ih⟩

def fieldsAt (key : String) (fields : List (String × List Char)) : List (String × List Char) :=
  fields.filter fun field => field.1 = key

theorem Fills.held (keyed : r.Keyed spells put holds)
    (fills : Fills r spells put draft fields final) {m : Member δ} (mem : m ∈ r.members) :
    fieldsAt m.key fields = [] ∧ holds final m.key = holds draft m.key ∨
      holds draft m.key = none ∧ ∃ text value, fieldsAt m.key fields = [(m.key, text)] ∧
        spells m.key text value ∧ holds final m.key = some value := by
  induction fills with
  | nil => exact Or.inl ⟨rfl, rfl⟩
  | @known draft final key text found value fields known fresh isValue _ ih =>
    obtain ⟨mem', rfl⟩ := member?_some known
    obtain ⟨here, elsewhere⟩ := keyed.put found mem' isValue draft
    by_cases same : found.key = m.key
    · have empty : holds draft m.key = none := by
        rw [keyed.given found mem', same] at fresh
        simpa using fresh
      rw [same] at here
      rcases ih with ⟨nothing, kept⟩ | ⟨again, -⟩
      · refine Or.inr ⟨empty, text, value, ?_, same ▸ isValue, by rw [kept, same, here]⟩
        rw [fieldsAt, List.filter_cons_of_pos (by simpa using same), ← fieldsAt, nothing, same]
      · rw [same, here] at again
        cases again
    · rw [fieldsAt, List.filter_cons_of_neg (by simpa using same), ← fieldsAt]
      rwa [elsewhere m.key (Ne.symm same)] at ih
  | @other draft final key text fields unknown _ _ ih =>
    have differs : key ≠ m.key := by
      rintro rfl
      exact absurd (List.find?_eq_none.1 unknown m mem) (by simp)
    rw [fieldsAt, List.filter_cons_of_neg (by simpa using differs), ← fieldsAt]
    exact ih

theorem Keyed.fills (keyed : r.Keyed spells put holds) (draft : δ)
    (once : ∀ m ∈ r.members, fieldsAt m.key fields = [] ∨
      holds draft m.key = none ∧ ∃ text value, fieldsAt m.key fields = [(m.key, text)] ∧
        spells m.key text value)
    (others : ∀ field ∈ fields, r.member? field.1 = none → ValueText field.2) :
    ∃ final, Fills r spells put draft fields final := by
  induction fields generalizing draft with
  | nil => exact ⟨draft, .nil draft⟩
  | cons field fields ih =>
    obtain ⟨key, text⟩ := field
    obtain ⟨first, later⟩ := List.forall_mem_cons.1 others
    cases known : r.member? key with
    | none =>
      have more : ∀ m ∈ r.members,
          fieldsAt m.key fields = fieldsAt m.key ((key, text) :: fields) := by
        intro m mem
        have differs : key ≠ m.key := by
          rintro rfl
          exact absurd (List.find?_eq_none.1 known m mem) (by simp)
        exact (List.filter_cons_of_neg (by simpa using differs)).symm
      obtain ⟨final, fills⟩ := ih draft (fun m mem => more m mem ▸ once m mem) later
      exact ⟨final, .other known (first known) fills⟩
    | some found =>
      obtain ⟨mem, rfl⟩ := member?_some known
      have given : fieldsAt found.key ((found.key, text) :: fields) =
          (found.key, text) :: fieldsAt found.key fields := List.filter_cons_of_pos (by simp)
      rcases once found mem with nothing | ⟨empty, text', value, all, isValue⟩
      · rw [given] at nothing
        cases nothing
      · rw [given] at all
        obtain ⟨same, rest⟩ := List.cons.inj all
        cases same
        obtain ⟨here, elsewhere⟩ := keyed.put found mem isValue draft
        obtain ⟨final, fills⟩ := ih (put found.key value draft) (by
          intro m mem'
          by_cases same : found.key = m.key
          · exact Or.inl (same ▸ rest)
          · rw [elsewhere m.key (Ne.symm same)]
            have more := once m mem'
            rwa [fieldsAt, List.filter_cons_of_neg (by simpa using same), ← fieldsAt] at more) later
        have fresh : found.isGiven draft = false := by
          rw [keyed.given found mem, empty, Option.isSome_none]
        exact ⟨final, .known known fresh isValue fills⟩

theorem Keyed.read_of_object (keyed : r.Keyed spells put holds) {space : List Char} {a : α}
    (blank : Blank space) (isObject : ObjectText StringText text fields)
    (fills : Fills r spells put r.blank fields final) (complete : r.complete final = .ok a)
    (rest : List Char) : r.read (space ++ text ++ rest) = .ok (a, rest) := by
  obtain ⟨body, texts, parts, members, rfl⟩ := isObject
  have nonempty : ∀ text ∈ texts, text ≠ [] := by
    intro text there
    obtain ⟨member, -, key, _, _, ⟨_, -, rfl⟩, -, -, rfl⟩ :=
      exists_of_forall₂ members text there
    exact List.cons_ne_nil _ _
  have enough := parts.length_lt nonempty ('}' :: rest)
  obtain ⟨left, read, closed⟩ := readObject_complete keyed parts members fills enough rest
  rw [Record.read, enclosed_append, skipSpace_mark blank (by rfl)]
  simp only [read, complete, closed, bind, Except.bind]
  rfl

theorem Keyed.object_of_read (keyed : r.Keyed spells put holds) {inside : List Char} {a : α}
    (front : skipSpace chars = '{' :: inside) (h : r.read chars = .ok (a, rest)) :
    ∃ space text fields final, Blank space ∧ ObjectText StringText text fields ∧
      Fills r spells put r.blank fields final ∧ r.complete final = .ok a ∧
      chars = space ++ text ++ rest := by
  obtain ⟨space, blank, whole⟩ := eq_of_skipSpace chars
  rw [Record.read, front] at h
  obtain ⟨⟨final, left⟩, read, h⟩ := bind_ok h
  dsimp only at h
  split at h
  · rename_i value complete
    obtain ⟨behind, closed, h⟩ := bind_ok h
    cases h
    obtain ⟨body, texts, fields, parts, members, fills, rfl⟩ := readObject_sound keyed read closed
    refine ⟨space, '{' :: (body ++ ['}']), fields, final, blank, ⟨body, texts, parts, members, rfl⟩,
      fills, complete, ?_⟩
    rw [whole, front, enclosed_append]
  · cases h

theorem Legible.complete_fills_iff (legible : r.Legible valueText put holds told) {a : α} :
    (∃ final, Fills r (fun _ => valueText) put r.blank fields final ∧ r.complete final = .ok a) ↔
      (∀ member ∈ told a, ∃ text, valueText text member.2 ∧
          fieldsAt member.1 fields = [(member.1, text)]) ∧
        ∀ field ∈ fields, field.1 ∉ (told a).map Prod.fst → ValueText field.2 := by
  have unknown (key : String) : r.member? key = none ↔ key ∉ (told a).map Prod.fst := by
    rw [legible.keys, member?, List.find?_eq_none]
    simp
  have member {m : String × γ} (wanted : m ∈ told a) : ∃ found ∈ r.members, found.key = m.1 := by
    have key : m.1 ∈ r.members.map Member.key := legible.keys a ▸ List.mem_map_of_mem wanted
    exact List.mem_map.1 key
  constructor
  · rintro ⟨final, fills, complete⟩
    constructor
    · intro m wanted
      have held := (legible.complete final a).1 complete m wanted
      obtain ⟨found, mem, same⟩ := member wanted
      rcases fills.held legible.keyed mem with ⟨-, kept⟩ | ⟨-, text, value, all, isValue, put⟩
      · rw [same, held, legible.blank] at kept
        cases kept
      · rw [same, held] at put
        cases put
        exact ⟨text, isValue, same ▸ all⟩
    · intro field there absent
      exact fills.others field there ((unknown field.1).2 absent)
  · rintro ⟨gives, others⟩
    have once : ∀ m ∈ r.members, fieldsAt m.key fields = [] ∨ holds r.blank m.key = none ∧
        ∃ text value, fieldsAt m.key fields = [(m.key, text)] ∧ valueText text value := by
      intro m mem
      have key : m.key ∈ (told a).map Prod.fst := legible.keys a ▸ List.mem_map_of_mem mem
      obtain ⟨⟨key, value⟩, wanted, same⟩ := List.mem_map.1 key
      obtain ⟨text, isValue, all⟩ := gives _ wanted
      dsimp only at same
      exact Or.inr ⟨legible.blank m.key, text, value, same ▸ all, isValue⟩
    obtain ⟨final, fills⟩ := legible.keyed.fills r.blank once fun field there none =>
      others field there ((unknown field.1).1 none)
    refine ⟨final, fills, (legible.complete final a).2 fun m wanted => ?_⟩
    obtain ⟨found, mem, same⟩ := member wanted
    obtain ⟨text, isValue, all⟩ := gives m wanted
    rcases fills.held legible.keyed mem with ⟨nothing, -⟩ | ⟨-, text', value, all', isValue', put⟩
    · rw [same, all] at nothing
      cases nothing
    · rw [same] at all' put
      rw [all] at all'
      cases all'
      rw [put, legible.unique mem isValue isValue']

def putAll (put : String → γ → δ → δ) (pairs : List (String × γ)) (draft : δ) : δ :=
  pairs.foldl (fun draft pair => put pair.1 pair.2 draft) draft

variable {ms : List (Member δ)} {pairs : List (String × γ)}

theorem Legible.holds_putAll (legible : r.Legible valueText put holds told)
    (sub : ∀ m ∈ ms, m ∈ r.members) (distinct : (ms.map Member.key).Nodup)
    (keys : pairs.map Prod.fst = ms.map Member.key) (draft : δ) :
    (∀ pair ∈ pairs, holds (putAll put pairs draft) pair.1 = some pair.2) ∧
      ∀ key, key ∉ ms.map Member.key → holds (putAll put pairs draft) key = holds draft key := by
  induction ms generalizing pairs draft with
  | nil =>
    cases List.map_eq_nil_iff.1 keys
    exact ⟨by simp, fun _ _ => rfl⟩
  | cons m ms ih =>
    cases pairs with
    | nil => cases keys
    | cons pair pairs =>
      obtain ⟨same, keys⟩ := List.cons.inj keys
      obtain ⟨new, later⟩ := List.nodup_cons.1 distinct
      obtain ⟨mem, sub⟩ := List.forall_mem_cons.1 sub
      obtain ⟨here, elsewhere⟩ := legible.put m mem pair.2 draft
      obtain ⟨filled, kept⟩ := ih sub later keys (put pair.1 pair.2 draft)
      constructor
      · refine List.forall_mem_cons.2 ⟨?_, filled⟩
        rw [putAll, List.foldl_cons, ← putAll, same]
        rw [same] at kept
        rw [kept m.key new, here]
      · intro key absent
        obtain ⟨differs, absent⟩ := not_or.1 (mt List.mem_cons.2 absent)
        rw [putAll, List.foldl_cons, ← putAll, kept key absent, same, elsewhere key differs]

theorem readListed_sound {count used : Nat} {left : List Char}
    (legible : r.Legible valueText put holds told) (sub : ∀ m ∈ ms, m ∈ r.members)
    (h : readListed ms count draft chars = .ok ((final, used), left))
    (enough : count + ms.length ≤ used) (closed : closeList left = .ok rest) :
    ∃ body texts pairs, Parts (decide (count = 0)) body texts ∧
      List.Forall₂ (fun text pair => valueText text pair.2) texts pairs ∧
      pairs.map Prod.fst = ms.map Member.key ∧ final = putAll put pairs draft ∧
      chars = body ++ ']' :: rest := by
  induction ms generalizing count draft chars with
  | nil =>
    cases h
    obtain ⟨space, blank, rfl⟩ := closeList_eq_ok_iff.1 closed
    exact ⟨space, [], [], .nil blank, .nil, rfl, rfl, rfl⟩
  | cons m ms ih =>
    obtain ⟨next, found, taken⟩ := bind_ok h
    rw [List.length_cons] at enough
    cases next with
    | none =>
      cases taken
      omega
    | some behind =>
      obtain ⟨⟨filled, behind'⟩, read, more⟩ := bind_ok taken
      obtain ⟨mem, sub⟩ := List.forall_mem_cons.1 sub
      obtain ⟨gap, isGap, rfl⟩ := nextItem?_some found
      obtain ⟨space, text, blank, ⟨value, isValue, rfl⟩, rfl⟩ :=
        (legible.reads m mem draft _ _ _).1 read
      obtain ⟨body, texts, pairs, parts, areValues, keys, rfl, rfl⟩ := ih sub more (by omega)
      refine ⟨(gap ++ space) ++ text ++ body, text :: texts, (m.key, value) :: pairs,
        .cons (isGap.append blank) (by simpa using parts), .cons isValue areValues, ?_, rfl, ?_⟩
      · rw [List.map_cons, List.map_cons, keys]
      · simp

theorem readListed_complete (legible : r.Legible valueText put holds told)
    (sub : ∀ m ∈ ms, m ∈ r.members) {count : Nat} (draft : δ)
    (parts : Parts (decide (count = 0)) body texts)
    (areValues : List.Forall₂ (fun text pair => valueText text pair.2) texts pairs)
    (keys : pairs.map Prod.fst = ms.map Member.key) (rest : List Char) :
    ∃ left, readListed ms count draft (body ++ ']' :: rest) =
        .ok ((putAll put pairs draft, count + ms.length), left) ∧ closeList left = .ok rest := by
  induction ms generalizing count draft body texts pairs with
  | nil =>
    cases List.map_eq_nil_iff.1 keys
    cases areValues
    cases parts with
    | nil blank => exact ⟨_, rfl, closeList_eq_ok_iff.2 ⟨body, blank, rfl⟩⟩
  | cons m ms ih =>
    cases pairs with
    | nil => cases keys
    | cons pair pairs =>
      obtain ⟨key, value⟩ := pair
      obtain ⟨same, others⟩ := List.cons.inj keys
      obtain ⟨mem, sub⟩ := List.forall_mem_cons.1 sub
      cases areValues with
      | @cons text _ texts _ isValue areValues =>
        cases parts with
        | @cons _ gap _ more _ isGap parts =>
          have parts' : Parts (decide (count + 1 = 0)) more texts := by simpa using parts
          dsimp only at same isValue
          subst same
          obtain ⟨left, later, closed⟩ := ih sub (put m.key value draft) parts' areValues others
          refine ⟨left, ?_, closed⟩
          have next := nextItem?_gap isGap (legible.begins text value isValue) (more ++ ']' :: rest)
          have read := (legible.reads m mem draft _ _ _).2 ⟨[], text, blank_nil,
            ⟨value, isValue, rfl⟩, Eq.refl ([] ++ text ++ (more ++ ']' :: rest))⟩
          rw [List.nil_append] at read
          rw [List.append_assoc, readListed, next]
          have counts : count + (m :: ms).length = count + 1 + ms.length := by
            rw [List.length_cons]
            omega
          simp only [read, later, counts, bind, Except.bind]
          rfl

theorem eq_of_keys {wanted : List (String × γ)} {f : String → Option γ}
    (keys : pairs.map Prod.fst = wanted.map Prod.fst)
    (first : ∀ pair ∈ pairs, f pair.1 = some pair.2)
    (second : ∀ pair ∈ wanted, f pair.1 = some pair.2) : pairs = wanted := by
  induction pairs generalizing wanted with
  | nil => exact (List.map_eq_nil_iff.1 keys.symm).symm
  | cons pair pairs ih =>
    cases wanted with
    | nil => cases keys
    | cons other wanted =>
      obtain ⟨same, keys⟩ := List.cons.inj keys
      obtain ⟨here, first⟩ := List.forall_mem_cons.1 first
      obtain ⟨there, second⟩ := List.forall_mem_cons.1 second
      rw [same, there] at here
      rw [ih keys first second, Prod.ext same (Option.some.inj here).symm]

theorem Legible.complete_putAll_iff (legible : r.Legible valueText put holds told)
    (keys : pairs.map Prod.fst = r.members.map Member.key) {a : α} :
    r.complete (putAll put pairs r.blank) = .ok a ↔ pairs = told a := by
  have filled := (legible.holds_putAll (fun _ mem => mem) legible.distinct keys r.blank).1
  rw [legible.complete]
  constructor
  · exact eq_of_keys (keys.trans (legible.keys a).symm) filled
  · rintro rfl
    exact filled

theorem Legible.recognizes (legible : r.Legible valueText put holds told) :
    Recognizes r.read fun text a => RecordText valueText (told a) text := by
  intro chars a rest
  constructor
  · intro h
    obtain ⟨space, blank, front⟩ := eq_of_skipSpace chars
    have taken := h
    unfold read at h
    split at h
    · rename_i behind same
      obtain ⟨space, text, fields, final, blank, isObject, fills, complete, whole⟩ :=
        legible.keyed.object_of_read same taken
      obtain ⟨gives, others⟩ := legible.complete_fills_iff.1 ⟨final, fills, complete⟩
      exact ⟨space, text, blank, .object isObject gives others, whole⟩
    · rename_i behind same
      obtain ⟨⟨⟨final, used⟩, left⟩, read, h⟩ := bind_ok h
      dsimp only at h
      split at h
      · cases h
      · rename_i enough
        rw [legible.full, Bool.not_false, eq_self, and_true, Nat.not_lt] at enough
        split at h
        · rename_i value complete
          obtain ⟨behind', closed, h⟩ := bind_ok h
          cases h
          obtain ⟨body, texts, pairs, parts, areValues, keys, rfl, rfl⟩ :=
            readListed_sound legible (fun _ mem => mem) read (by omega) closed
          rw [(legible.complete_putAll_iff keys).1 complete] at areValues
          refine ⟨space, '[' :: (body ++ [']']), blank, .list ⟨body, parts, rfl⟩ areValues, ?_⟩
          rw [front, same, enclosed_append]
        · cases h
    · exact absurd h (failMismatch_ne_ok _ _ _)
  · rintro ⟨space, text, blank, isRecord, rfl⟩
    cases isRecord with
    | object isObject gives others =>
      obtain ⟨final, fills, complete⟩ := legible.complete_fills_iff.2 ⟨gives, others⟩
      exact legible.keyed.read_of_object blank isObject fills complete rest
    | @list texts isList areValues =>
      obtain ⟨body, parts, rfl⟩ := isList
      have keys := legible.keys a
      have complete := (legible.complete_putAll_iff keys).2 rfl
      have first : Parts (decide (0 = 0)) body texts := parts
      obtain ⟨left, read, closed⟩ :=
        readListed_complete legible (fun _ mem => mem) r.blank first areValues keys rest
      rw [Record.read, enclosed_append, skipSpace_mark blank (by rfl)]
      simp only [read, complete, closed, bind, Except.bind, Nat.zero_add, Nat.lt_irrefl, false_and,
        ↓reduceIte]
      rfl

end Record

theorem ofShape_accepts {β : Type} {key : String} {shape : Shape β} {get : δ → Option β}
    {set : β → δ → δ} {valueText : List Char → β → Prop} (h : Accepts shape.read valueText)
    (draft : δ) :
    Accepts ((Member.ofShape key shape get set).read draft) fun text next =>
      ∃ value, valueText text value ∧ next = set value draft := by
  constructor
  · intro chars next rest taken
    obtain ⟨⟨value, behind⟩, read, taken⟩ := bind_ok taken
    cases taken
    obtain ⟨space, text, blank, isValue, whole⟩ := h.sound read
    exact ⟨space, text, blank, ⟨value, isValue, rfl⟩, whole⟩
  · intro space text next rest blank given stop
    obtain ⟨value, isValue, rfl⟩ := given
    have read := h.complete blank isValue stop
    simp only [Member.ofShape, read, bind, Except.bind]

theorem ofShape_recognizes {β : Type} {key : String} {shape : Shape β} {get : δ → Option β}
    {set : β → δ → δ} {valueText : List Char → β → Prop} (h : Recognizes shape.read valueText)
    (draft : δ) :
    Recognizes ((Member.ofShape key shape get set).read draft) fun text next =>
      ∃ value, valueText text value ∧ next = set value draft := by
  intro chars next rest
  constructor
  · intro taken
    obtain ⟨⟨value, behind⟩, read, taken⟩ := bind_ok taken
    cases taken
    obtain ⟨space, text, blank, isValue, rfl⟩ := (h _ _ _).1 read
    exact ⟨space, text, blank, ⟨value, isValue, rfl⟩, rfl⟩
  · rintro ⟨space, text, blank, ⟨value, isValue, rfl⟩, rfl⟩
    have read := (h _ _ rest).2 ⟨space, text, blank, isValue, rfl⟩
    simp only [Member.ofShape, read, bind, Except.bind]

end LedgerWallet.Json
