import LedgerWallet.Files.Tree
import LedgerWallet.Proofs.Results

namespace LedgerWallet.FileTree

/-- The root, the working directory and those above it, which are there in every tree. -/
def IsFixed (location : Location) : Prop := location = [root] ∨ isAround location = true

instance (location : Location) : Decidable (IsFixed location) :=
  inferInstanceAs (Decidable (_ ∨ _))

theorem lookup?_fixed (tree : FileTree) {location : Location} (fixed : IsFixed location) :
    tree.lookup? location = some .directory :=
  if_pos fixed

theorem not_fixed_of_lookup? {tree : FileTree} {location : Location}
    (h : tree.lookup? location ≠ some .directory) : ¬ IsFixed location :=
  fun fixed => h (tree.lookup?_fixed fixed)

theorem lookup?_of_not_fixed (tree : FileTree) {location : Location} (h : ¬ IsFixed location) :
    tree.lookup? location =
      (tree.entries.find? fun entry => entry.1 = location).map Prod.snd :=
  if_neg h

theorem lookup?_filter (tree : FileTree) (stays : Location × Entry → Bool) {location : Location}
    (kept : ∀ entry, stays (location, entry) = true) :
    lookup? { tree with entries := tree.entries.filter stays } location =
      tree.lookup? location := by
  by_cases fixed : IsFixed location
  · rw [lookup?_fixed _ fixed, lookup?_fixed _ fixed]
  · rw [lookup?_of_not_fixed _ fixed, lookup?_of_not_fixed _ fixed, List.find?_filter]
    congr 2
    funext entry
    by_cases same : entry.1 = location
    · have here : entry = (location, entry.2) := Prod.ext same rfl
      rw [here, kept]
      simp
    · simp [same]

theorem lookup?_append_of_ne (tree : FileTree) {location other : Location} (entry : Entry)
    (h : other ≠ location) :
    lookup? { tree with entries := tree.entries ++ [(location, entry)] } other =
      tree.lookup? other := by
  by_cases fixed : IsFixed other
  · rw [lookup?_fixed _ fixed, lookup?_fixed _ fixed]
  · rw [lookup?_of_not_fixed _ fixed, lookup?_of_not_fixed _ fixed]
    simp [List.find?_append, h.symm]

theorem lookup?_insert_self (tree : FileTree) {location : Location} (entry : Entry)
    (h : ¬ IsFixed location) : (tree.insert location entry).lookup? location = some entry := by
  have gone : (tree.entries.filter (fun other => other.1 ≠ location)).find?
      (fun other => other.1 = location) = none := by
    simp [List.find?_eq_none]
  rw [lookup?_of_not_fixed _ h, insert, List.find?_append, gone]
  simp

theorem lookup?_insert_of_ne (tree : FileTree) {location other : Location} (entry : Entry)
    (h : other ≠ location) : (tree.insert location entry).lookup? other = tree.lookup? other := by
  rw [← lookup?_filter tree (fun entry => entry.1 ≠ location) fun _ => decide_eq_true h]
  exact lookup?_append_of_ne { tree with entries := _ } entry h

theorem lookup?_erase_of_not_below (tree : FileTree) {location other : Location}
    (h : ¬ location <+: other) : (tree.erase location).lookup? other = tree.lookup? other :=
  lookup?_filter tree _ fun _ => by
    simpa [← List.isPrefixOf_iff_prefix] using h

theorem lookup?_erase_of_below (tree : FileTree) {location other : Location}
    (h : location <+: other) (notFixed : ¬ IsFixed other) :
    (tree.erase location).lookup? other = none := by
  have gone : (tree.erase location).entries.find? (fun entry => entry.1 = other) = none := by
    simp only [List.find?_eq_none, erase, List.mem_filter, decide_eq_true_eq]
    rintro entry ⟨_, apart⟩ same
    subst same
    simp [List.isPrefixOf_iff_prefix.2 h] at apart
  rw [lookup?_of_not_fixed _ notFixed, gone]
  rfl

@[simp]
theorem lookup?_spend (tree : FileTree) : tree.spend.lookup? = tree.lookup? := rfl

theorem attempt_cases (tree done : FileTree) (partly : Fault → FileTree) :
    tree.attempt done partly = (.ok (), done.spend) ∨
      ∃ fault, tree.attempt done partly = (.error fault.error, (partly fault).spend) := by
  unfold attempt
  cases tree.nextFault with
  | none => exact Or.inl rfl
  | some fault => exact Or.inr ⟨fault, rfl⟩

theorem andThen_cases (step : Except IoError Unit × FileTree)
    (next : FileTree → Except IoError Unit × FileTree) :
    (∃ error, step.1 = .error error ∧ andThen step next = (.error error, step.2)) ∨
      step.1 = .ok () ∧ andThen step next = next step.2 := by
  obtain ⟨result, tree⟩ := step
  cases result with
  | error error => exact Or.inl ⟨error, rfl, rfl⟩
  | ok done => exact Or.inr ⟨rfl, rfl⟩

theorem walk_append (tree : FileTree) (location : Location) (names more : List String) :
    tree.walk location (names ++ more) =
      (tree.walk location names >>= fun next => tree.walk next more) := by
  induction names generalizing location with
  | nil => rfl
  | cons name names ih =>
    simp only [List.cons_append, walk]
    cases tree.step location name with
    | error error => rfl
    | ok next => exact ih next

theorem walk_singleton (tree : FileTree) (location : Location) (name : String) :
    tree.walk location [name] = tree.step location name := by
  simp only [walk]
  cases tree.step location name <;> rfl

theorem step_of_directory {tree tree' : FileTree} {location next : Location} {name : String}
    (h : tree.step location name = .ok next)
    (there : tree'.lookup? location = some .directory) : tree'.step location name = .ok next := by
  unfold step at h ⊢
  rw [there]
  cases entry : tree.lookup? location with
  | none => simp [entry] at h
  | some found =>
    cases found with
    | file content => simp [entry] at h
    | directory => simpa [entry] using h

theorem directory_of_step {tree : FileTree} {location next : Location} {name : String}
    (h : tree.step location name = .ok next) : tree.lookup? location = some .directory := by
  unfold step at h
  cases entry : tree.lookup? location with
  | none => simp [entry] at h
  | some found =>
    cases found with
    | file content => simp [entry] at h
    | directory => rfl

theorem step_below {tree : FileTree} {location next place : Location} {name : String}
    (h : tree.step location name = .ok next) (outside : ¬ place <+: location)
    (below : place <+: next) : next = place := by
  have here := directory_of_step h
  simp only [step, here] at h
  split at h
  · cases h
    contradiction
  · split at h
    · cases h
      unfold above at below ⊢
      split at below
      · contradiction
      · rename_i notRoot
        split at below
        · rename_i around
          rcases List.prefix_concat_iff.1 below with same | below
          · simp [same, notRoot, around]
          · contradiction
        · exact absurd (below.trans (List.dropLast_prefix location)) outside
    · split at h
      · cases h
      · cases h
        rcases List.prefix_concat_iff.1 below with same | below
        · exact same.symm
        · contradiction

theorem walk_of_kept {tree tree' : FileTree} (P : Location → Prop)
    (closed : ∀ location next name, P location → tree.step location name = .ok next → P next)
    (kept : ∀ location, P location → tree.lookup? location = some .directory →
      tree'.lookup? location = some .directory)
    {location reached : Location} {names : List String} (first : P location)
    (h : tree.walk location names = .ok reached) : tree'.walk location names = .ok reached := by
  induction names generalizing location with
  | nil => exact h
  | cons name names ih =>
    obtain ⟨next, taken, rest⟩ := bind_ok h
    rw [walk, step_of_directory taken (kept location first (directory_of_step taken))]
    exact ih (closed location next name first taken) rest

theorem walk_of_directories {tree tree' : FileTree}
    (kept : ∀ location, tree.lookup? location = some .directory →
      tree'.lookup? location = some .directory)
    {location reached : Location} {names : List String}
    (h : tree.walk location names = .ok reached) : tree'.walk location names = .ok reached :=
  walk_of_kept (fun _ => True) (fun _ _ _ _ _ => True.intro) (fun location _ => kept location)
    True.intro h

/-- A walk never comes below a place that is not a directory. -/
theorem walk_beside {tree tree' : FileTree} {place : Location}
    (notDirectory : tree.lookup? place ≠ some .directory)
    (kept : ∀ location, ¬ place <+: location → tree.lookup? location = some .directory →
      tree'.lookup? location = some .directory)
    {location reached : Location} {names : List String} (first : ¬ place <+: location)
    (h : tree.walk location names = .ok reached) : tree'.walk location names = .ok reached := by
  have apart : ∀ location, (place <+: location → location = place) →
      tree.lookup? location = some .directory → ¬ place <+: location := by
    intro location outside here below
    exact notDirectory (outside below ▸ here)
  apply walk_of_kept (fun location => place <+: location → location = place) ?_ ?_
    (fun below => absurd below first) h
  · intro location next name outside taken
    exact step_below taken (apart location outside (directory_of_step taken))
  · intro location outside here
    exact kept location (apart location outside here) here

end LedgerWallet.FileTree
