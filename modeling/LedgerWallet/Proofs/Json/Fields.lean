import LedgerWallet.Proofs.Json.Documents
import LedgerWallet.Proofs.Json.Uniqueness

namespace LedgerWallet.Json.Record

variable {α γ δ : Type} {r : Record δ α} {spells : String → List Char → γ → Prop}
  {put : String → γ → δ → δ} {holds : δ → String → Option γ} {draft final : δ} {key : String}
  {text : List Char} {fields : List (String × List Char)} {whole : String}

theorem mem_fieldsAt_iff {field : String × List Char} :
    field ∈ fieldsAt key fields ↔ field ∈ fields ∧ field.1 = key := by
  simp [fieldsAt]

theorem length_fieldsAt (key : String) (fields : List (String × List Char)) :
    (fieldsAt key fields).length = (fields.map Prod.fst).count key := by
  rw [fieldsAt, ← List.countP_eq_length_filter, List.count, List.countP_map]
  rfl

/-- A key is given at most once, and then with a value of its kind. -/
def GivenWell (spells : String → List Char → γ → Prop) (key : String)
    (fields : List (String × List Char)) : Prop :=
  (fields.map Prod.fst).count key ≤ 1 ∧
    ∀ text, (key, text) ∈ fields → ∃ value, spells key text value

theorem givenWell_iff : GivenWell spells key fields ↔ fieldsAt key fields = [] ∨
    ∃ text value, fieldsAt key fields = [(key, text)] ∧ spells key text value := by
  rw [GivenWell, ← length_fieldsAt]
  have texts : (∀ text, (key, text) ∈ fields → ∃ value, spells key text value) ↔
      ∀ field ∈ fieldsAt key fields, ∃ value, spells key field.2 value := by
    constructor
    · intro given field there
      obtain ⟨inFields, rfl⟩ := mem_fieldsAt_iff.1 there
      exact given field.2 inFields
    · exact fun given text there => given (key, text) (mem_fieldsAt_iff.2 ⟨there, rfl⟩)
  rw [texts]
  have keys : ∀ field ∈ fieldsAt key fields, field.1 = key :=
    fun field there => (mem_fieldsAt_iff.1 there).2
  cases given : fieldsAt key fields with
  | nil => simp
  | cons field others =>
    obtain ⟨same, -⟩ := List.forall_mem_cons.1 (given ▸ keys)
    cases others with
    | nil =>
      obtain ⟨name, text⟩ := field
      subst same
      simp
    | cons other others => simp

def HoldsGiven (spells : String → List Char → γ → Prop) (held : Option γ) (key : String)
    (fields : List (String × List Char)) : Prop :=
  (∀ text, (key, text) ∈ fields → ∃ value, spells key text value ∧ held = some value) ∧
    (key ∉ fields.map Prod.fst → held = none)

theorem Fills.givenWell (keyed : r.Keyed spells put holds)
    (fills : Fills r spells put r.blank fields final) {m : Member δ} (mem : m ∈ r.members) :
    GivenWell spells m.key fields ∧ HoldsGiven spells (holds final m.key) m.key fields := by
  have blank := keyed.blank m.key
  rcases fills.held keyed mem with ⟨nothing, kept⟩ | ⟨-, text, value, all, spelled, put⟩
  · refine ⟨givenWell_iff.2 (Or.inl nothing), ?_, fun _ => kept.trans blank⟩
    intro text there
    have given : (m.key, text) ∈ fieldsAt m.key fields := mem_fieldsAt_iff.2 ⟨there, rfl⟩
    rw [nothing] at given
    cases given
  · refine ⟨givenWell_iff.2 (Or.inr ⟨text, value, all, spelled⟩), ?_, ?_⟩
    · intro text' there
      have given : (m.key, text') ∈ fieldsAt m.key fields := mem_fieldsAt_iff.2 ⟨there, rfl⟩
      rw [all, List.mem_singleton] at given
      cases given
      exact ⟨value, spelled, put⟩
    · intro absent
      have given : (m.key, text) ∈ fieldsAt m.key fields := by
        rw [all]
        exact List.mem_singleton_self _
      exact absurd (List.mem_map_of_mem (mem_fieldsAt_iff.1 given).1) absent

theorem Keyed.fills_of_givenWell (keyed : r.Keyed spells put holds)
    (areValues : ∀ field ∈ fields, ValueText field.2)
    (given : ∀ m ∈ r.members, GivenWell spells m.key fields) :
    ∃ final, Fills r spells put r.blank fields final := by
  refine keyed.fills r.blank (fun m mem => ?_) fun field there _ => areValues field there
  exact (givenWell_iff.1 (given m mem)).imp_right fun once => ⟨keyed.blank m.key, once⟩

theorem Fills.values (isValue : ∀ {key text value}, spells key text value → ValueText text)
    (fills : Fills r spells put draft fields final) : ∀ field ∈ fields, ValueText field.2 := by
  induction fills with
  | nil => simp
  | known _ _ spelled _ ih => exact List.forall_mem_cons.2 ⟨isValue spelled, ih⟩
  | other _ isValue _ ih => exact List.forall_mem_cons.2 ⟨isValue, ih⟩

structure IsObject (whole : String) (fields : List (String × List Char)) : Prop where
  stands : StandsAlone (fun text => ObjectText StringText text fields) whole
  values : ∀ field ∈ fields, ValueText field.2

theorem Keyed.parse_object_iff (keyed : r.Keyed spells put holds)
    (isValue : ∀ {key text value}, spells key text value → ValueText text)
    (isObject : IsObject whole fields) {a : α} :
    r.parse whole = .ok a ↔
      ∃ final, Fills r spells put r.blank fields final ∧ r.complete final = .ok a := by
  obtain ⟨stands, areValues⟩ := isObject
  obtain ⟨space, text, space', blank, blank', isObject, shape⟩ := stands
  rw [parse, readAll_eq_ok_iff]
  constructor
  · intro ⟨rest, read, ends⟩
    obtain ⟨body, -, -, -, rfl⟩ := id isObject
    have front : skipSpace whole.toList = '{' :: (body ++ '}' :: space') := by
      rw [shape, enclosed_append, skipSpace_mark blank (by rfl)]
    obtain ⟨space₁, text₁, fields₁, final, blank₁, isObject₁, fills, complete, shape₁⟩ :=
      keyed.object_of_read front read
    have same : fields₁ = fields := fields_unique
      ⟨space₁, text₁, rest, blank₁, finish_eq_ok_iff.1 ends, isObject₁, shape₁⟩
      ⟨space, _, space', blank, blank', isObject, shape⟩ (fills.values isValue) areValues
    exact ⟨final, same ▸ fills, complete⟩
  · intro ⟨final, fills, complete⟩
    rw [shape]
    exact ⟨space', keyed.read_of_object blank isObject fills complete space',
      finish_eq_ok_iff.2 blank'⟩

end LedgerWallet.Json.Record
