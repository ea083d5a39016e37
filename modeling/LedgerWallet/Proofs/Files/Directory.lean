import LedgerWallet.Proofs.Files.Changes
import LedgerWallet.Proofs.Files.Paths

namespace LedgerWallet

namespace FileTree

variable {tree : FileTree} {directory : Path} {location : Location} {name other : String}

def LeadsTo (tree : FileTree) (directory : Path) (location : Location) : Prop :=
  tree.walk (start directory) directory.steps = .ok location ∧
    tree.lookup? location = some .directory

def fileIn (tree : FileTree) (directory : Path) (name : String) : Option ByteString :=
  (tree.read (directory.join name)).toOption

theorem fileIn_eq_some_iff {content : ByteString} :
    tree.fileIn directory name = some content ↔ tree.read (directory.join name) = .ok content := by
  unfold fileIn
  cases tree.read (directory.join name) <;> simp [Except.toOption]

def Fits (directory : Path) (name : String) : Prop :=
  accept (directory.join name) = .ok () ∧ Utf8.size name.toList ≤ nameLimit

theorem step_name (there : tree.lookup? location = some .directory) (h : Path.IsName name)
    (next : Location) : tree.step location name = .ok next ↔
      Utf8.size name.toList ≤ nameLimit ∧ location ++ [name] = next := by
  unfold step
  simp only [there, h.notHere, h.notAbove, ↓reduceIte]
  by_cases long : nameLimit < Utf8.size name.toList
  · simp [long, Nat.not_le.2 long]
  · simp [long, Nat.not_lt.1 long]

theorem start_join (h : Path.IsName name) : start (directory.join name) = start directory := by
  rw [start, start, directory.isAbsolute_join h]

theorem resolve_join (leads : tree.LeadsTo directory location) (h : Path.IsName name)
    (reached : Location) : tree.resolve (directory.join name) = .ok reached ↔
      Fits directory name ∧ location ++ [name] = reached := by
  rw [resolve_eq_ok_iff, directory.steps_join h, start_join h, walk_append, leads.1]
  change _ ∧ tree.walk location [name] = _ ↔ _
  rw [walk_singleton, step_name leads.2 h, Fits, and_assoc]

theorem fileIn_iff_lookup? (leads : tree.LeadsTo directory location) (h : Path.IsName name)
    {content : ByteString} : tree.fileIn directory name = some content ↔
      Fits directory name ∧ tree.lookup? (location ++ [name]) = some (.file content) := by
  simp only [fileIn_eq_some_iff, read_eq_ok_iff, resolve_join leads h, directory.endsInSlash_join h]
  constructor
  · rintro ⟨_, ⟨fits, rfl⟩, stands, -⟩
    exact ⟨fits, stands⟩
  · rintro ⟨fits, stands⟩
    exact ⟨_, ⟨fits, rfl⟩, stands, trivial⟩

theorem leadsTo_of_fileIn {content : ByteString} (h : Path.IsName name)
    (stands : tree.fileIn directory name = some content) :
    ∃ location, tree.LeadsTo directory location := by
  obtain ⟨reached, found, -⟩ := read_eq_ok_iff.1 (fileIn_eq_some_iff.1 stands)
  have walked := (resolve_eq_ok_iff.1 found).2
  rw [directory.steps_join h, start_join h, walk_append] at walked
  obtain ⟨location, first, last⟩ := bind_ok walked
  rw [walk_singleton] at last
  exact ⟨location, first, directory_of_step last⟩

theorem fileIn_congr {tree' : FileTree} (leads : tree.LeadsTo directory location)
    (leads' : tree'.LeadsTo directory location) (h : Path.IsName name)
    (same : ∀ content, tree'.lookup? (location ++ [name]) = some (.file content) ↔
      tree.lookup? (location ++ [name]) = some (.file content)) :
    tree'.fileIn directory name = tree.fileIn directory name := by
  apply Option.ext
  intro content
  rw [fileIn_iff_lookup? leads' h, fileIn_iff_lookup? leads h, same]

theorem LeadsTo.of_directories {tree' : FileTree} (leads : tree.LeadsTo directory location)
    (kept : ∀ location, tree.lookup? location = some .directory →
      tree'.lookup? location = some .directory) : tree'.LeadsTo directory location :=
  ⟨walk_of_directories kept leads.1, kept location leads.2⟩

def Puts (before after : FileTree) (directory : Path) (name : String) (content : ByteString) :
    Prop :=
  ∀ other, Path.IsName other → after.fileIn directory other =
    if other = name then some content else before.fileIn directory other

def SameFiles (before after : FileTree) (directory : Path) : Prop :=
  ∀ other, Path.IsName other → after.fileIn directory other = before.fileIn directory other

theorem puts_of_lookup? {after : FileTree} {content : ByteString}
    (leads : tree.LeadsTo directory location) (leads' : after.LeadsTo directory location)
    (h : Path.IsName name) (fits : Fits directory name)
    (stands : after.lookup? (location ++ [name]) = some (.file content))
    (others : ∀ other, other ≠ name → ∀ content,
      after.lookup? (location ++ [other]) = some (.file content) ↔
        tree.lookup? (location ++ [other]) = some (.file content)) :
    Puts tree after directory name content := by
  intro other isName
  by_cases same : other = name
  · subst same
    rw [if_pos rfl]
    exact (fileIn_iff_lookup? leads' isName).2 ⟨fits, stands⟩
  · rw [if_neg same]
    exact fileIn_congr leads leads' isName (others other same)

theorem replace_in_directory (leads : tree.LeadsTo directory location) (h : Path.IsName name)
    (content : ByteString) :
    (tree.replace (directory.join name) content).2.LeadsTo directory location ∧
      ((∃ error, (tree.replace (directory.join name) content).1 = .error error ∧
          SameFiles tree (tree.replace (directory.join name) content).2 directory) ∨
        (tree.replace (directory.join name) content).1 = .ok () ∧
          Puts tree (tree.replace (directory.join name) content).2 directory name content) := by
  obtain ⟨made, way, ⟨error, failed, same⟩ | ⟨done, placed⟩⟩ :=
    replace_cases tree (directory.join name) content
  all_goals have adds := way.adds
  · have leads' : (tree.replace (directory.join name) content).2.LeadsTo directory location := by
      apply leads.of_directories
      intro location there
      rw [same]
      exact adds.directory there
    refine ⟨leads', Or.inl ⟨error, failed, ?_⟩⟩
    intro other isName
    apply fileIn_congr leads leads' isName
    intro content
    rw [same]
    exact adds.file_iff
  · have leads' := leads.of_directories fun _ there => placed.directory (adds.directory there)
    have leadsMade : made.LeadsTo directory location := leads.of_directories fun _ => adds.directory
    obtain ⟨target, found, -, -, same⟩ := placed
    obtain ⟨fits, rfl⟩ := (resolve_join leadsMade h target).1 found
    refine ⟨leads', Or.inr ⟨done, puts_of_lookup? leads leads' h fits ?_ ?_⟩⟩
    · rw [same]
      exact if_pos rfl
    · intro other ne content
      rw [same]
      dsimp only
      rw [if_neg (by simpa using ne)]
      exact adds.file_iff

def Moves (before after : FileTree) (directory : Path) (name target : String)
    (content : ByteString) : Prop :=
  ∀ other, Path.IsName other → after.fileIn directory other =
    if other = target then some content
    else if other = name then none else before.fileIn directory other

theorem rename_in_directory {after : FileTree} {source : Location} {content : ByteString}
    (leads : tree.LeadsTo directory location) (h : Path.IsName name) (h' : Path.IsName other)
    (stands : tree.fileIn directory name = some content)
    (resolved : tree.resolve (directory.join name) = .ok source)
    (moved : tree.rename source (directory.join other) = (.ok (), after)) :
    after.LeadsTo directory location ∧ Moves tree after directory name other content := by
  obtain ⟨-, rfl⟩ := (resolve_join leads h source).1 resolved
  have file := ((fileIn_iff_lookup? leads h).1 stands).2
  have notDirectory : tree.lookup? (location ++ [name]) ≠ some .directory := by simp [file]
  have notFixed := not_fixed_of_lookup? notDirectory
  have read := read_of_rename file moved
  obtain ⟨target, found, free, -, rfl⟩ := rename_file file moved
  obtain ⟨-, rfl⟩ := (resolve_join leads h' target).1 found
  have apart : ¬ location ++ [name] <+: location := by
    intro below
    have shorter := below.length_le
    simp only [List.length_append, List.length_singleton] at shorter
    omega
  have carried : (tree.carry (location ++ [name]) (location ++ [other]) content).LeadsTo
      directory location :=
    ⟨walk_beside notDirectory (fun _ => carry_keeps_directories content free)
      (start_not_below notDirectory) leads.1, carry_keeps_directories content free apart leads.2⟩
  have leads' : (tree.carry (location ++ [name]) (location ++ [other]) content).spend.LeadsTo
      directory location := carried.of_directories fun _ there => there
  refine ⟨leads', ?_⟩
  intro third isName
  by_cases atTarget : third = other
  · subst atTarget
    rw [if_pos rfl]
    exact fileIn_eq_some_iff.2 read
  · rw [if_neg atTarget]
    have elsewhere : location ++ [third] ≠ location ++ [other] := by simpa using atTarget
    by_cases atSource : third = name
    · subst atSource
      rw [if_pos rfl]
      apply Option.eq_none_iff_forall_ne_some.2
      intro found stays
      have gone := ((fileIn_iff_lookup? leads' isName).1 stays).2
      rw [lookup?_spend, carry, lookup?_insert_of_ne _ _ elsewhere,
        lookup?_erase_of_below _ List.prefix_rfl notFixed] at gone
      cases gone
    · rw [if_neg atSource]
      apply fileIn_congr leads leads' isName
      intro found
      rw [lookup?_spend, lookup?_carry_of_ne content elsewhere]
      intro below
      have same := below.eq_of_length (by simp)
      simp at same
      exact atSource same.symm

theorem write_in_directory (leads : tree.LeadsTo directory location) (h : Path.IsName name)
    (content : ByteString) :
    (tree.write (directory.join name) content).2.LeadsTo directory location ∧
      ∀ other, Path.IsName other → other ≠ name →
        (tree.write (directory.join name) content).2.fileIn directory other =
          tree.fileIn directory other := by
  rcases write_cases tree (directory.join name) content with
    ⟨error, failed⟩ | ⟨place, found, others, -⟩
  · rw [failed]
    exact ⟨leads, fun _ _ _ => rfl⟩
  · obtain ⟨resolved, free, -⟩ := place_eq_ok found
    obtain ⟨-, rfl⟩ := (resolve_join leads h place).1 resolved
    have leads' := leads.of_directories fun _ => others.directory free
    refine ⟨leads', fun other isName ne => fileIn_congr leads leads' isName fun content => ?_⟩
    rw [others _ (by simpa using ne)]

end FileTree

end LedgerWallet
