import Mathlib.Data.List.Basic
import LedgerWallet.Proofs.Files.Lookup

namespace LedgerWallet.FileTree

variable {tree : FileTree} {path : Path}

theorem resolve_eq_ok_iff {location : Location} :
    tree.resolve path = .ok location ↔
      accept path = .ok () ∧ tree.walk (start path) path.steps = .ok location := by
  unfold resolve
  cases accept path with
  | error error => simp [bind, Except.bind]
  | ok done => simp [bind, Except.bind]

theorem read_eq_ok_iff {content : ByteString} :
    tree.read path = .ok content ↔
      ∃ location, tree.resolve path = .ok location ∧
        tree.lookup? location = some (.file content) ∧ path.endsInSlash = false := by
  unfold read find
  cases tree.resolve path with
  | error error => simp [bind, Except.bind]
  | ok location =>
    simp only [bind, Except.bind, Except.ok.injEq, exists_eq_left']
    cases tree.lookup? location with
    | none => simp
    | some entry =>
      cases entry with
      | directory => simp
      | file found => cases path.endsInSlash <;> simp

theorem contains_of_read {content : ByteString} (h : tree.read path = .ok content) :
    tree.contains path = true := by
  obtain ⟨entry, found, -⟩ := bind_ok h
  rw [contains, found]
  rfl

theorem find_of_read {content : ByteString} (h : tree.read path = .ok content) :
    tree.find path = .ok (.file content) := by
  obtain ⟨entry, found, h⟩ := bind_ok h
  cases entry with
  | file found' =>
    cases h
    exact found
  | directory => cases h

theorem start_not_below {location : Location} (h : tree.lookup? location ≠ some .directory) :
    ¬ location <+: start path := by
  intro below
  apply not_fixed_of_lookup? h
  unfold start at below
  split at below
  · rcases List.prefix_cons_iff.1 below with rfl | ⟨rest, same, nothing⟩
    · exact Or.inr rfl
    · rw [same, List.prefix_nil.1 nothing]
      exact Or.inl rfl
  · rw [List.prefix_nil.1 below]
    exact Or.inr rfl

theorem resolve_beside {tree' : FileTree} {place location : Location}
    (notDirectory : tree.lookup? place ≠ some .directory)
    (kept : ∀ location, ¬ place <+: location → tree.lookup? location = some .directory →
      tree'.lookup? location = some .directory)
    (h : tree.resolve path = .ok location) : tree'.resolve path = .ok location := by
  obtain ⟨accepted, walked⟩ := resolve_eq_ok_iff.1 h
  exact resolve_eq_ok_iff.2
    ⟨accepted, walk_beside notDirectory kept (start_not_below notDirectory) walked⟩

theorem resolve_of_directories {tree' : FileTree} {location : Location}
    (kept : ∀ location, tree.lookup? location = some .directory →
      tree'.lookup? location = some .directory)
    (h : tree.resolve path = .ok location) : tree'.resolve path = .ok location := by
  obtain ⟨accepted, walked⟩ := resolve_eq_ok_iff.1 h
  exact resolve_eq_ok_iff.2 ⟨accepted, walk_of_directories kept walked⟩

def SameBut (place : Location) (before after : FileTree) : Prop :=
  ∀ location, location ≠ place → after.lookup? location = before.lookup? location

namespace SameBut

variable {place : Location} {before after : FileTree}

theorem refl (place : Location) (tree : FileTree) : SameBut place tree tree := fun _ _ => rfl

theorem of_lookup? {after' : FileTree} (h : SameBut place before after)
    (same : after'.lookup? = after.lookup?) : SameBut place before after' := by
  intro location ne
  rw [same]
  exact h location ne

theorem insert (h : SameBut place before after) (entry : Entry) :
    SameBut place before (after.insert place entry) :=
  fun location ne => (lookup?_insert_of_ne after entry ne).trans (h location ne)

theorem attempt (tree : FileTree) {done : FileTree} {partly : Fault → FileTree}
    (whole : SameBut place before done) (part : ∀ fault, SameBut place before (partly fault)) :
    SameBut place before (tree.attempt done partly).2 := by
  rcases tree.attempt_cases done partly with worked | ⟨fault, failed⟩
  · rw [worked]
    exact whole
  · rw [failed]
    exact part fault

theorem createFile (h : SameBut place before after) :
    SameBut place before (after.createFile place).2 :=
  attempt after (h.insert _) fun _ => h

theorem fill (h : SameBut place before after) (content : ByteString) :
    SameBut place before (after.fill place content).2 :=
  attempt after (h.insert _) fun _ => h.insert _

theorem sync (h : SameBut place before after) : SameBut place before after.sync.2 :=
  attempt after h fun _ => h

theorem directory (h : SameBut place before after)
    (notDirectory : before.lookup? place ≠ some .directory) {location : Location}
    (there : before.lookup? location = some .directory) :
    after.lookup? location = some .directory := by
  rw [h, there]
  rintro rfl
  exact notDirectory there

end SameBut

theorem lookup?_fill {location : Location} {content : ByteString}
    (notFixed : ¬ IsFixed location) (worked : (tree.fill location content).1 = .ok ()) :
    (tree.fill location content).2.lookup? location = some (.file content) := by
  unfold fill at worked ⊢
  rcases tree.attempt_cases (tree.insert location (.file content)) _ with done | ⟨fault, failed⟩
  · rw [done]
    exact lookup?_insert_self tree _ notFixed
  · rw [failed] at worked
    cases worked

theorem dropLast_append_getLast? (names : List String) :
    names.dropLast ++ names.getLast?.toList = names := by
  cases last : names.getLast? with
  | none =>
    rw [List.getLast?_eq_none_iff.1 last]
    rfl
  | some name => exact List.dropLast_append_getLast? name last

theorem place_eq_ok {location : Location} (h : tree.place path = .ok location) :
    tree.resolve path = .ok location ∧ tree.lookup? location ≠ some .directory ∧
      path.endsInSlash = false := by
  obtain ⟨_, accepted, h⟩ := bind_ok h
  obtain ⟨directory, way, h⟩ := bind_ok h
  obtain ⟨_, -, h⟩ := bind_ok h
  cases slash : path.endsInSlash with
  | true =>
    rw [slash] at h
    cases h
  | false =>
    rw [slash] at h
    obtain ⟨reached, last, h⟩ := bind_ok h
    split at h
    · cases h
    · rename_i free
      cases h
      refine ⟨?_, free, rfl⟩
      rw [resolve_eq_ok_iff, ← dropLast_append_getLast? path.steps, walk_append, way]
      exact ⟨accepted, last⟩

theorem write_cases (tree : FileTree) (path : Path) (content : ByteString) :
    (∃ error, tree.write path content = (.error error, tree)) ∨
      ∃ location, tree.place path = .ok location ∧
        SameBut location tree (tree.write path content).2 ∧
        ((tree.write path content).1 = .ok () →
          (tree.write path content).2.lookup? location = some (.file content)) := by
  unfold write
  cases found : tree.place path with
  | error error => exact Or.inl ⟨error, rfl⟩
  | ok location =>
    right
    refine ⟨location, rfl, ?_⟩
    have opened := (SameBut.refl location tree).createFile
    have notFixed := not_fixed_of_lookup? (place_eq_ok found).2.1
    rcases andThen_cases (tree.createFile location) fun tree => tree.fill location content with
      ⟨error, failed, same⟩ | ⟨-, same⟩
    · dsimp only
      rw [same]
      exact ⟨opened, fun worked => by cases worked⟩
    · dsimp only
      rw [same]
      exact ⟨opened.fill content, lookup?_fill notFixed⟩

theorem read_of_write {written : FileTree} {content : ByteString}
    (h : tree.write path content = (.ok (), written)) : written.read path = .ok content := by
  rcases write_cases tree path content with ⟨error, failed⟩ | ⟨location, found, others, stands⟩
  · rw [failed] at h
    cases h
  · rw [h] at others stands
    obtain ⟨resolved, free, slash⟩ := place_eq_ok found
    exact read_eq_ok_iff.2 ⟨location,
      resolve_of_directories (fun _ there => others.directory free there) resolved, stands rfl,
      slash⟩

def carry (tree : FileTree) (source target : Location) (content : ByteString) : FileTree :=
  (tree.erase source).insert target (.file content)

theorem renamed_file {moved : FileTree} {source : Location} {content : ByteString}
    (stands : tree.lookup? source = some (.file content))
    (h : tree.renamed source path = .ok moved) :
    ∃ target, tree.resolve path = .ok target ∧ tree.lookup? target ≠ some .directory ∧
      path.endsInSlash = false ∧ moved = tree.carry source target content := by
  unfold renamed at h
  cases isNull : path.hasNull with
  | true => simp [isNull, bind, Except.bind, throw, throwThe, MonadExceptOf.throw] at h
  | false =>
    cases found : tree.resolve path with
    | error error => simp [isNull, found, bind, Except.bind] at h
    | ok target =>
      simp only [isNull, found, stands, bind, Except.bind,
        Bool.false_eq_true, ↓reduceIte] at h
      by_cases dots : path.steps.getLast?.all isDots = true
      · simp [dots] at h
      · cases slash : path.endsInSlash with
        | true => simp [dots, slash] at h
        | false =>
          by_cases directory : tree.lookup? target = some .directory
          · simp [dots, slash, directory] at h
          · simp only [dots, slash, directory, Bool.false_eq_true, ↓reduceIte] at h
            cases h
            exact ⟨target, rfl, directory, rfl, rfl⟩

theorem rename_file {after : FileTree} {source : Location} {content : ByteString}
    (stands : tree.lookup? source = some (.file content))
    (h : tree.rename source path = (.ok (), after)) :
    ∃ target, tree.resolve path = .ok target ∧ tree.lookup? target ≠ some .directory ∧
      path.endsInSlash = false ∧ after = (tree.carry source target content).spend := by
  unfold rename at h
  cases made : tree.renamed source path with
  | error error =>
    rw [made] at h
    cases h
  | ok moved =>
    obtain ⟨target, found, free, slash, rfl⟩ := renamed_file stands made
    rw [made] at h
    refine ⟨target, found, free, slash, ?_⟩
    rcases tree.attempt_cases (tree.carry source target content) (fun _ => tree) with
      worked | ⟨fault, failed⟩
    · exact congrArg Prod.snd (h.symm.trans worked)
    · have no := congrArg Prod.fst (h.symm.trans failed)
      cases no

theorem rename_error {source : Location} {error : IoError}
    (h : (tree.rename source path).1 = .error error) :
    (tree.rename source path).2.lookup? = tree.lookup? := by
  unfold rename at h ⊢
  cases made : tree.renamed source path with
  | error error => rfl
  | ok moved =>
    rw [made] at h
    dsimp only at h ⊢
    rcases tree.attempt_cases moved (fun _ => tree) with worked | ⟨fault, failed⟩
    · rw [worked] at h
      cases h
    · rw [failed]
      rfl

theorem lookup?_carry_target {source target : Location} (content : ByteString)
    (h : tree.lookup? target ≠ some .directory) :
    (tree.carry source target content).lookup? target = some (.file content) :=
  lookup?_insert_self _ _ (not_fixed_of_lookup? h)

theorem lookup?_carry_of_ne {source target location : Location} (content : ByteString)
    (ne : location ≠ target) (apart : ¬ source <+: location) :
    (tree.carry source target content).lookup? location = tree.lookup? location := by
  rw [carry, lookup?_insert_of_ne _ _ ne, lookup?_erase_of_not_below _ apart]

theorem carry_keeps_directories {source target location : Location} (content : ByteString)
    (h : tree.lookup? target ≠ some .directory) (apart : ¬ source <+: location)
    (directory : tree.lookup? location = some .directory) :
    (tree.carry source target content).lookup? location = some .directory := by
  rw [lookup?_carry_of_ne content ?_ apart, directory]
  rintro rfl
  exact h directory

theorem read_of_rename {after : FileTree} {source : Location} {content : ByteString}
    (stands : tree.lookup? source = some (.file content))
    (h : tree.rename source path = (.ok (), after)) : after.read path = .ok content := by
  obtain ⟨target, found, notDirectory, slash, rfl⟩ := rename_file stands h
  have sourceFile : tree.lookup? source ≠ some .directory := by simp [stands]
  exact read_eq_ok_iff.2 ⟨target,
    resolve_beside sourceFile (fun _ => carry_keeps_directories content notDirectory) found,
    lookup?_carry_target content notDirectory, slash⟩

def AddsDirectories (before after : FileTree) : Prop :=
  ∀ location, after.lookup? location = before.lookup? location ∨
    (before.lookup? location = none ∧ after.lookup? location = some .directory)

namespace AddsDirectories

theorem directory {before after : FileTree} (h : AddsDirectories before after)
    {location : Location} (there : before.lookup? location = some .directory) :
    after.lookup? location = some .directory := by
  rcases h location with same | ⟨absent, made⟩
  · exact same.trans there
  · exact made

theorem file_iff {before after : FileTree} (h : AddsDirectories before after)
    {location : Location} {content : ByteString} :
    after.lookup? location = some (.file content) ↔
      before.lookup? location = some (.file content) := by
  rcases h location with same | ⟨absent, made⟩
  · rw [same]
  · simp [absent, made]

theorem read {before after : FileTree} (h : AddsDirectories before after) {content : ByteString}
    (stands : before.read path = .ok content) : after.read path = .ok content := by
  obtain ⟨location, found, file, slash⟩ := read_eq_ok_iff.1 stands
  exact read_eq_ok_iff.2
    ⟨location, resolve_of_directories (fun _ => h.directory) found, h.file_iff.2 file, slash⟩

end AddsDirectories

/-- What stands at a location is what stood there, or a directory that is new and lies on the way
that the names lead. -/
def KeptOrMade (before after : FileTree) (origin : Location) (names : List String)
    (location : Location) : Prop :=
  after.lookup? location = before.lookup? location ∨
    (before.lookup? location = none ∧ after.lookup? location = some .directory ∧
      ∃ passed, passed <+: names ∧ after.walk origin passed = .ok location)

def MakesWay (before after : FileTree) (origin : Location) (names : List String) : Prop :=
  ∀ location, KeptOrMade before after origin names location

namespace MakesWay

variable {origin : Location} {names : List String}

theorem refl (tree : FileTree) : MakesWay tree tree origin names := fun _ => Or.inl rfl

theorem adds {before after : FileTree} (h : MakesWay before after origin names) :
    AddsDirectories before after := by
  intro location
  rcases h location with same | ⟨absent, made, -⟩
  · exact Or.inl same
  · exact Or.inr ⟨absent, made⟩

theorem trans {first second third : FileTree} (h : MakesWay first second origin names)
    (h' : MakesWay second third origin names) : MakesWay first third origin names := by
  intro location
  rcases h' location with same' | ⟨absent', made', way'⟩
  · rcases h location with same | ⟨absent, made, passed, within, walked⟩
    · exact Or.inl (same'.trans same)
    · exact Or.inr ⟨absent, same'.trans made, passed, within,
        walk_of_directories (fun _ => h'.adds.directory) walked⟩
  · rcases h location with same | ⟨-, made, -⟩
    · exact Or.inr ⟨same ▸ absent', made', way'⟩
    · rw [made] at absent'
      cases absent'

theorem longer {before after : FileTree} {more : List String}
    (h : MakesWay before after origin names) (within : names <+: more) :
    MakesWay before after origin more := by
  intro location
  rcases h location with same | ⟨absent, made, passed, front, walked⟩
  · exact Or.inl same
  · exact Or.inr ⟨absent, made, passed, front.trans within, walked⟩

end MakesWay

theorem MakesWay.of_lookup? {before after after' : FileTree} {origin : Location}
    {names : List String} (h : MakesWay before after origin names)
    (same : after'.lookup? = after.lookup?) : MakesWay before after' origin names := by
  intro location
  rcases h location with stays | ⟨absent, made, passed, within, walked⟩
  · exact Or.inl (by rw [same, stays])
  · refine Or.inr ⟨absent, by rw [same, made], passed, within, ?_⟩
    exact walk_of_directories (fun _ there => by rw [same, there]) walked

theorem createDirectory_makesWay (tree : FileTree) (origin : Location) (names : List String) :
    MakesWay tree (tree.createDirectory origin names).2 origin names := by
  unfold createDirectory
  cases walked : tree.walk origin names with
  | error error => exact .refl tree
  | ok reached =>
    dsimp only
    cases found : tree.lookup? reached with
    | some entry => exact .refl tree
    | none =>
      have notDirectory : tree.lookup? reached ≠ some .directory := by simp [found]
      have made : MakesWay tree (tree.insert reached .directory) origin names := by
        intro location
        by_cases same : location = reached
        · subst same
          have others := (SameBut.refl location tree).insert .directory
          exact Or.inr ⟨found, lookup?_insert_self _ _ (not_fixed_of_lookup? notDirectory), names,
            List.prefix_rfl, walk_of_directories (fun _ => others.directory notDirectory) walked⟩
        · exact Or.inl (lookup?_insert_of_ne _ _ same)
      dsimp only
      rcases tree.attempt_cases (tree.insert reached .directory) (fun _ => tree) with
        worked | ⟨fault, failed⟩
      · rw [worked]
        exact made.of_lookup? rfl
      · rw [failed]
        exact (MakesWay.refl tree).of_lookup? rfl

theorem createDirectories_makesWay (origin : Location) (names : List String) (tree : FileTree) :
    MakesWay tree (createDirectories origin tree names).2 origin names.reverse := by
  induction names generalizing tree with
  | nil => exact .refl tree
  | cons name above ih =>
    have last := createDirectory_makesWay tree origin (name :: above).reverse
    simp only [createDirectories]
    rcases made : tree.createDirectory origin (name :: above).reverse with ⟨result, tried⟩
    rw [made] at last
    cases result with
    | ok done => exact last
    | error error =>
      by_cases missing : error = .notFound
      · subst missing
        have within : above.reverse <+: (name :: above).reverse := by
          rw [List.reverse_cons]
          exact List.prefix_append _ _
        have before := last.trans ((ih tried).longer within)
        dsimp only
        rcases andThen_cases (createDirectories origin tried above) _ with
          ⟨error, -, same⟩ | ⟨-, same⟩
        · rw [same]
          exact before
        · rw [same]
          have after := before.trans
            (createDirectory_makesWay (createDirectories origin tried above).2 origin
              (name :: above).reverse)
          revert after
          rcases FileTree.createDirectory _ origin (name :: above).reverse with ⟨result, again⟩
          intro after
          cases result <;> exact after
      · cases error <;> first | exact absurd rfl missing | exact last

theorem createParent_makesWay (tree : FileTree) (path : Path) :
    MakesWay tree (tree.createParent path).2 (start path) path.parentSteps := by
  unfold createParent
  split
  · exact .refl tree
  · cases accept path.parent with
    | error error => exact .refl tree
    | ok done =>
      have made := createDirectories_makesWay (start path) path.parentSteps.reverse tree
      rwa [List.reverse_reverse] at made

theorem le_foldl_max {numbers : List Nat} {n : Nat} (first : Nat) (h : n ∈ numbers ∨ n ≤ first) :
    n ≤ numbers.foldl max first := by
  induction numbers generalizing first with
  | nil => simpa using h
  | cons number numbers ih =>
    apply ih
    rcases h with member | small
    · rcases List.mem_cons.1 member with rfl | member
      · exact Or.inr (Nat.le_max_right _ _)
      · exact Or.inl member
    · exact Or.inr (Nat.le_trans small (Nat.le_max_left _ _))

theorem freshName_not_mem {entry : Location × Entry} (h : entry ∈ tree.entries) :
    tree.freshName ∉ entry.1 := by
  intro member
  have listed : tree.freshName.length ∈
      tree.entries.flatMap fun entry => entry.1.map String.length :=
    List.mem_flatMap.2 ⟨entry, h, List.mem_map_of_mem member⟩
  have bound := le_foldl_max 0 (Or.inl listed)
  have length : tree.freshName.length =
      (tree.entries.flatMap fun entry => entry.1.map String.length).foldl max 0 + 1 := by
    simp [freshName]
  omega

def besideIn (tree : FileTree) (directory : Location) : Location :=
  directory ++ [tree.freshName]

theorem below_beside_not_fixed {directory location : Location}
    (below : tree.besideIn directory <+: location) : ¬ IsFixed location := by
  have member : tree.freshName ∈ location := below.subset (by simp [besideIn])
  have first : 't' ∈ tree.freshName.toList := by simp [freshName]
  rintro (same | around)
  · rw [same, List.mem_singleton] at member
    rw [member] at first
    exact absurd first (by decide)
  · have dots : tree.freshName = ".." := by
      simpa using List.all_eq_true.1 around _ member
    rw [dots] at first
    exact absurd first (by decide)

theorem lookup?_below_beside {directory location : Location}
    (below : tree.besideIn directory <+: location) : tree.lookup? location = none := by
  rw [lookup?_of_not_fixed _ (below_beside_not_fixed below), Option.map_eq_none_iff,
    List.find?_eq_none]
  intro entry member same
  have same : entry.1 = location := by simpa using same
  exact freshName_not_mem member (same ▸ below.subset (by simp [besideIn]))

theorem lookup?_erase_beside {written : FileTree} {directory : Location}
    (others : SameBut (tree.besideIn directory) tree written) :
    (written.erase (tree.besideIn directory)).lookup? = tree.lookup? := by
  funext location
  by_cases below : tree.besideIn directory <+: location
  · rw [lookup?_erase_of_below _ below (below_beside_not_fixed below), lookup?_below_beside below]
  · have apart : location ≠ tree.besideIn directory := by
      rintro rfl
      exact below List.prefix_rfl
    rw [lookup?_erase_of_not_below _ below, others location apart]

/-- The tree has the content as a file at a path, in place of no directory, and all else as it
was. -/
def Placed (before after : FileTree) (path : Path) (content : ByteString) : Prop :=
  ∃ target, before.resolve path = .ok target ∧ before.lookup? target ≠ some .directory ∧
    path.endsInSlash = false ∧ after.lookup? = fun location =>
      if location = target then some (.file content) else before.lookup? location

theorem rename_beside {written after : FileTree} {directory : Location} {content : ByteString}
    (others : SameBut (tree.besideIn directory) tree written)
    (stands : written.lookup? (tree.besideIn directory) = some (.file content))
    (h : written.rename (tree.besideIn directory) path = (.ok (), after)) :
    Placed tree after path content := by
  have absent : tree.lookup? (tree.besideIn directory) = none :=
    lookup?_below_beside List.prefix_rfl
  obtain ⟨target, found, notDirectory, slash, rfl⟩ := rename_file stands h
  refine ⟨target, resolve_of_directories ?_ found, ?_, slash, ?_⟩
  · intro location there
    rw [← others location ?_]
    · exact there
    · rintro rfl
      simp [stands] at there
  · by_cases same : target = tree.besideIn directory
    · simp [same, absent]
    · rw [← others target same]
      exact notDirectory
  · funext location
    rw [lookup?_spend]
    by_cases same : location = target
    · subst same
      rw [if_pos rfl]
      exact lookup?_carry_target content notDirectory
    · rw [if_neg same, carry, lookup?_insert_of_ne _ _ same, lookup?_erase_beside others]

theorem fillAndRename_cases (tree : FileTree) (directory : Location) (path : Path)
    (content : ByteString) :
    let done := tree.fillAndRename (tree.besideIn directory) path content
    (∃ error, done.1 = .error error ∧ SameBut (tree.besideIn directory) tree done.2) ∨
      (done.1 = .ok () ∧ Placed tree done.2 path content) := by
  let beside := tree.besideIn directory
  have notFixed : ¬ IsFixed beside := below_beside_not_fixed List.prefix_rfl
  unfold fillAndRename
  have created := (SameBut.refl beside tree).createFile
  rcases andThen_cases (tree.createFile beside) _ with ⟨error, -, same⟩ | ⟨-, same⟩
  · rw [same]
    exact Or.inl ⟨error, rfl, created⟩
  rw [same]
  dsimp only
  generalize (tree.createFile beside).2 = opened at created ⊢
  have filled := created.fill content
  rcases andThen_cases (opened.fill beside content) _ with ⟨error, -, same⟩ | ⟨worked, same⟩
  · rw [same]
    exact Or.inl ⟨error, rfl, filled⟩
  rw [same]
  have stands := lookup?_fill notFixed worked
  generalize (opened.fill beside content).2 = full at filled stands ⊢
  have synced : full.sync.2.lookup? = full.lookup? := by
    rcases full.attempt_cases full (fun _ => full) with done | ⟨fault, failed⟩
    · exact congrArg (fun step => step.2.lookup?) done
    · exact congrArg (fun step => step.2.lookup?) failed
  rcases andThen_cases full.sync _ with ⟨error, -, same⟩ | ⟨-, same⟩
  · rw [same]
    exact Or.inl ⟨error, rfl, filled.sync⟩
  rw [same]
  have settled := filled.of_lookup? synced
  rw [← synced] at stands
  cases moved : full.sync.2.rename beside path with
  | mk result after =>
    cases result with
    | error error =>
      have stays := rename_error (congrArg Prod.fst moved)
      rw [moved] at stays
      exact Or.inl ⟨error, rfl, settled.of_lookup? stays⟩
    | ok done => exact Or.inr ⟨rfl, rename_beside settled stands moved⟩

/-- What a replacement leaves: new directories at most, and on success the new file. -/
theorem replace_cases (tree : FileTree) (path : Path) (content : ByteString) :
    ∃ made, MakesWay tree made (start path) path.parentSteps ∧
      ((∃ error, (tree.replace path content).1 = .error error ∧
          (tree.replace path content).2.lookup? = made.lookup?) ∨
        (tree.replace path content).1 = .ok () ∧
          Placed made (tree.replace path content).2 path content) := by
  have way := createParent_makesWay tree path
  unfold replace
  cases parent : tree.createParent path with
  | mk result made =>
    rw [parent] at way
    refine ⟨made, way, ?_⟩
    cases result with
    | error error => exact Or.inl ⟨error, rfl, rfl⟩
    | ok done =>
      dsimp only [andThen]
      cases made.walk (start path) path.parentSteps with
      | error error => exact Or.inl ⟨error, rfl, rfl⟩
      | ok directory =>
        have ended := made.fillAndRename_cases directory path content
        dsimp only [besideIn] at ended ⊢
        cases filled : made.fillAndRename (directory ++ [made.freshName]) path content with
        | mk result after =>
          rw [filled] at ended
          rcases ended with ⟨error, failed, others⟩ | ⟨worked, placed⟩
          · -- What was written beside is taken away again.
            cases failed
            exact Or.inl ⟨error, rfl, lookup?_erase_beside others⟩
          · cases worked
            exact Or.inr ⟨rfl, placed⟩

theorem Placed.directory {made after : FileTree} {content : ByteString} {location : Location}
    (h : Placed made after path content) (there : made.lookup? location = some .directory) :
    after.lookup? location = some .directory := by
  obtain ⟨target, -, notDirectory, -, same⟩ := h
  have other : location ≠ target := by
    rintro rfl
    exact notDirectory there
  rw [same]
  exact (if_neg other).trans there

theorem read_of_replace {content : ByteString} (h : (tree.replace path content).1 = .ok ()) :
    (tree.replace path content).2.read path = .ok content := by
  obtain ⟨made, -, ⟨error, failed, -⟩ | ⟨-, placed⟩⟩ := replace_cases tree path content
  · rw [failed] at h
    cases h
  · have kept : ∀ place, made.lookup? place = some .directory →
        (tree.replace path content).2.lookup? place = some .directory := fun _ => placed.directory
    obtain ⟨target, found, notDirectory, slash, same⟩ := placed
    refine read_eq_ok_iff.2 ⟨target, resolve_of_directories kept found, ?_, slash⟩
    rw [same]
    exact if_pos rfl

theorem replace_error_adds {content : ByteString} {error : IoError}
    (h : (tree.replace path content).1 = .error error) :
    AddsDirectories tree (tree.replace path content).2 := by
  obtain ⟨made, way, ⟨-, -, same⟩ | ⟨done, -⟩⟩ := replace_cases tree path content
  · intro location
    rw [same]
    exact way.adds location
  · rw [done] at h
    cases h

end LedgerWallet.FileTree
