import LedgerWallet.Proofs.Files.Changes
import LedgerWallet.Proofs.Files.Paths

namespace LedgerWallet

namespace Text

theorem intercalate_concat {separator last : List Char} {front : List (List Char)}
    (some : front ≠ []) : List.intercalate separator (front ++ [last]) =
      List.intercalate separator front ++ separator ++ last := by
  induction front with
  | nil => exact absurd rfl some
  | cons first rest ih =>
    cases rest with
    | nil => simp
    | cons second rest =>
      have behind := ih (by simp)
      rw [List.cons_append] at behind
      simp [behind]

theorem intercalate_isPrefix {separator : List Char} {front whole : List (List Char)}
    (h : front <+: whole) :
    List.intercalate separator front <+: List.intercalate separator whole := by
  induction front generalizing whole with
  | nil => exact List.nil_prefix
  | cons first front ih =>
    obtain ⟨rest, rfl⟩ := h
    cases front with
    | nil =>
      cases rest with
      | nil => exact List.prefix_rfl
      | cons second rest =>
        rw [List.intercalate_singleton, List.singleton_append, List.intercalate_cons_cons,
          List.append_assoc]
        exact List.prefix_append _ _
    | cons second front =>
      rw [List.cons_append, List.cons_append, List.intercalate_cons_cons,
        List.intercalate_cons_cons, List.prefix_append_right_inj]
      exact ih (List.prefix_append _ _)

theorem intercalate_pieces (c : Char) (chars : List Char) :
    List.intercalate [c] (pieces (· = c) chars) = chars := by
  induction chars with
  | nil => simp [pieces]
  | cons d chars ih =>
    change List.intercalate [c] (extendPieces (· = c) d (pieces (· = c) chars)) = _
    cases found : pieces (· = c) chars with
    | nil => exact absurd found (pieces_ne_nil chars)
    | cons first others =>
      rw [found] at ih
      by_cases same : d = c
      · subst same
        simp [extendPieces, ih]
      · cases others with
        | nil => simpa [extendPieces, same] using ih
        | cons second others => simpa [extendPieces, same] using ih

end Text

namespace Path

variable {path : Path}

theorem filter_dropWhile_isIdle (pieces : List (List Char)) :
    (pieces.dropWhile isIdle).filter (fun piece => !isIdle piece) =
      pieces.filter fun piece => !isIdle piece := by
  induction pieces with
  | nil => rfl
  | cons piece pieces ih =>
    cases idle : isIdle piece with
    | true => simp [idle, ih]
    | false => simp [idle]

theorem filter_dropIdleEnd (pieces : List (List Char)) :
    (dropIdleEnd pieces).filter (fun piece => !isIdle piece) =
      pieces.filter fun piece => !isIdle piece := by
  rw [dropIdleEnd, List.filter_reverse, filter_dropWhile_isIdle, List.filter_reverse,
    List.reverse_reverse]

theorem dropIdleEnd_isPrefix (pieces : List (List Char)) : dropIdleEnd pieces <+: pieces := by
  rw [← List.reverse_suffix, dropIdleEnd, List.reverse_reverse]
  exact List.dropWhile_suffix _

theorem dropIdleEnd_concat {piece : List Char} (front : List (List Char))
    (h : isIdle piece = false) : dropIdleEnd (front ++ [piece]) = front ++ [piece] := by
  simp [dropIdleEnd, h]

/-- A path that does not ask for a directory ends in the name of what it leads to. -/
theorem pieces_eq_concat (notEmpty : path.text ≠ "") (slash : path.endsInSlash = false) :
    ∃ front name, path.pieces = front ++ [name] ∧ name ≠ [] := by
  have whole : List.intercalate ['/'] path.pieces = path.text.toList :=
    Text.intercalate_pieces '/' path.text.toList
  obtain ⟨front, name, ends⟩ : ∃ front name, path.pieces = front ++ [name] :=
    ⟨_, _, (List.dropLast_concat_getLast (Text.pieces_ne_nil path.text.toList)).symm⟩
  refine ⟨front, name, ends, ?_⟩
  rintro rfl
  rw [ends] at whole
  by_cases only : front = []
  · subst only
    exact notEmpty (by simpa using whole.symm)
  · rw [Text.intercalate_concat only] at whole
    simp [endsInSlash, ← whole] at slash

theorem parent_isPrefix (path : Path) : path.parent.text.toList <+: path.text.toList := by
  have within : path.parentPieces <+: path.pieces :=
    (dropIdleEnd_isPrefix _).trans ((List.dropLast_prefix _).trans (dropIdleEnd_isPrefix _))
  have front : List.intercalate ['/'] path.parentPieces <+: List.intercalate ['/'] path.pieces :=
    Text.intercalate_isPrefix within
  rw [pieces, Text.intercalate_pieces] at front
  simpa [parent] using front

theorem parentSteps_eq (notEmpty : path.text ≠ "") (slash : path.endsInSlash = false)
    {name : String} (last : path.steps.getLast? = some name) (notHere : name ≠ ".") :
    path.parentSteps = path.steps.dropLast.filter (· ≠ ".") := by
  obtain ⟨front, piece, ends, some⟩ := pieces_eq_concat notEmpty slash
  have steps : path.steps = (front.filter (· ≠ [])).map String.ofList ++ [String.ofList piece] := by
    simp [Path.steps, ends, some]
  rw [steps, List.getLast?_concat, Option.some.injEq] at last
  have busy : isIdle piece = false := by
    have notDot : piece ≠ ['.'] := by
      rintro rfl
      exact notHere last.symm
    simp [isIdle, some, notDot]
  rw [steps, List.dropLast_concat, parentSteps, parentPieces, ends, dropIdleEnd_concat _ busy,
    List.dropLast_concat, filter_dropIdleEnd, List.filter_map, List.filter_filter]
  congr 2
  funext piece
  have dot : String.ofList piece = "." ↔ piece = ['.'] := String.ofList_inj
  by_cases empty : piece = [] <;> simp [isIdle, empty, dot]

end Path

namespace FileTree

variable {tree : FileTree} {path : Path}

theorem walk_filter_here {location reached : Location} {names : List String}
    (h : tree.walk location names = .ok reached) :
    tree.walk location (names.filter (· ≠ ".")) = .ok reached := by
  induction names generalizing location with
  | nil => exact h
  | cons name names ih =>
    obtain ⟨next, taken, rest⟩ := bind_ok h
    by_cases here : name = "."
    · subst here
      have stays : next = location := by simpa [step, directory_of_step taken] using taken.symm
      rw [stays] at rest
      simpa using ih rest
    · rw [List.filter_cons_of_pos (by simpa using here), walk, taken]
      exact ih rest

/-- There are directories on the whole way to the location. -/
def Hangs (tree : FileTree) (location : Location) : Prop :=
  ∀ front, front <+: location → front ≠ location → tree.lookup? front = some .directory

theorem Hangs.front {location front : Location} (h : tree.Hangs location)
    (there : tree.lookup? location = some .directory) (within : front <+: location) :
    tree.lookup? front = some .directory := by
  by_cases same : front = location
  · rw [same, there]
  · exact h front within same

theorem Hangs.above {location : Location} (h : tree.Hangs location)
    (there : tree.lookup? location = some .directory) :
    tree.lookup? (above location) = some .directory := by
  unfold FileTree.above
  split
  · exact there
  · split
    · rename_i around
      apply lookup?_fixed
      right
      simpa [isAround] using around
    · exact h.front there (List.dropLast_prefix location)

theorem Hangs.of_step {location next : Location} {name : String} (h : tree.Hangs location)
    (taken : tree.step location name = .ok next) : tree.Hangs next := by
  have there := directory_of_step taken
  have longer : ∀ last, tree.Hangs (location ++ [last]) := by
    intro last front within ne
    rcases List.prefix_concat_iff.1 within with same | within
    · exact absurd same ne
    · exact h.front there within
  simp only [step, there] at taken
  split at taken
  · cases taken
    exact h
  · split at taken
    · cases taken
      unfold FileTree.above
      split
      · exact h
      · split
        · exact longer ".."
        · exact fun front within _ =>
            h.front there (within.trans (List.dropLast_prefix location))
    · split at taken
      · cases taken
      · cases taken
        exact longer name

theorem Hangs.of_walk {location reached : Location} {names : List String}
    (h : tree.Hangs location) (walked : tree.walk location names = .ok reached) :
    tree.Hangs reached := by
  induction names generalizing location with
  | nil =>
    cases walked
    exact h
  | cons name names ih =>
    obtain ⟨next, taken, rest⟩ := bind_ok walked
    exact ih (h.of_step taken) rest

theorem hangs_start (path : Path) : tree.Hangs (start path) := by
  intro front within ne
  unfold start at within ne
  split at within
  · rename_i absolute
    rw [if_pos absolute] at ne
    rcases List.prefix_cons_iff.1 within with rfl | ⟨rest, same, nothing⟩
    · exact tree.lookup?_fixed (Or.inr rfl)
    · rw [List.prefix_nil.1 nothing] at same
      exact absurd same ne
  · rw [List.prefix_nil.1 within]
    exact tree.lookup?_fixed (Or.inr rfl)

/-- The path can be opened to write a file: it ends in a name, in a directory that is there. -/
structure Opens (tree : FileTree) (path : Path) (directory : Location) (name : String)
    (target : Location) : Prop where
  accepted : accept path = .ok ()
  noSlash : path.endsInSlash = false
  way : tree.walk (start path) path.steps.dropLast = .ok directory
  directory : tree.lookup? directory = some .directory
  last : path.steps.getLast? = some name
  notDots : isDots name = false
  resolved : tree.resolve path = .ok target
  free : tree.lookup? target ≠ some .directory

theorem opens_of_place {target : Location} (h : tree.place path = .ok target) :
    ∃ directory name, tree.Opens path directory name target := by
  obtain ⟨resolved, free, slash⟩ := place_eq_ok h
  obtain ⟨_, accepted, h⟩ := bind_ok h
  obtain ⟨directory, way, h⟩ := bind_ok h
  obtain ⟨_, entered, -⟩ := bind_ok h
  have there := directory_of_step entered
  have walked := (resolve_eq_ok_iff.1 resolved).2
  rw [← dropLast_append_getLast? path.steps, walk_append, way] at walked
  change tree.walk directory _ = _ at walked
  cases last : path.steps.getLast? with
  | none =>
    rw [last] at walked
    cases walked
    exact absurd there free
  | some name =>
    rw [last] at walked
    change tree.walk directory [name] = _ at walked
    rw [walk_singleton] at walked
    refine ⟨directory, name, accepted, slash, way, there, last, ?_, resolved, free⟩
    -- With dots at its end the path would lead to a directory.
    by_contra dots
    have hangs := (hangs_start path).of_walk way
    simp only [step, there] at walked
    split at walked
    · cases walked
      exact free there
    · rename_i notHere
      have up : name = ".." := by simpa [isDots, notHere] using dots
      rw [if_pos up] at walked
      cases walked
      exact free (hangs.above there)

theorem accept_eq_ok_iff : accept path = .ok () ↔
    path.hasNull = false ∧ path.text ≠ "" ∧ path.size ≤ pathLimit := by
  unfold accept
  cases path.hasNull with
  | true => simp
  | false =>
    by_cases empty : path.text = ""
    · simp [empty]
    · by_cases long : pathLimit < path.size
      · simp [empty, long, Nat.not_le.2 long]
      · simp [empty, long, Nat.not_lt.1 long]

theorem size_append (front rest : List Char) :
    Utf8.size (front ++ rest) = Utf8.size front + Utf8.size rest := by
  induction front with
  | nil => simp [Utf8.size]
  | cons c front ih =>
    simp only [List.cons_append, Utf8.size, ih]
    omega

theorem accept_parent (accepted : accept path = .ok ()) (some : path.parent.text ≠ "") :
    accept path.parent = .ok () := by
  obtain ⟨noNull, -, short⟩ := accept_eq_ok_iff.1 accepted
  have front := path.parent_isPrefix
  refine accept_eq_ok_iff.2 ⟨?_, some, ?_⟩
  · simp only [Path.hasNull, List.contains_eq_mem, decide_eq_false_iff_not] at noNull ⊢
    exact fun member => noNull (front.subset member)
  · obtain ⟨rest, whole⟩ := front
    unfold Path.size at short ⊢
    rw [← whole, size_append] at short
    omega

theorem createDirectories_of_there {origin location : Location} {names : List String}
    (walked : tree.walk origin names.reverse = .ok location)
    (there : tree.lookup? location = some .directory) :
    createDirectories origin tree names = (.ok (), tree) := by
  cases names with
  | nil => rfl
  | cons name above =>
    unfold createDirectories
    generalize (name :: above).reverse = names at walked ⊢
    have stands : tree.createDirectory origin names = (.error .alreadyExists, tree) := by
      simp [createDirectory, walked, there]
    simp [stands, isDirectoryAt, walked, there]

theorem attempt_of_works {done : FileTree} {partly : Fault → FileTree} (works : tree.faults = []) :
    tree.attempt done partly = (.ok (), done.spend) := by
  simp [attempt, nextFault, works]

namespace Opens

variable {directory target : Location} {name : String}

theorem parentSteps (h : tree.Opens path directory name target) :
    tree.walk (start path) path.parentSteps = .ok directory := by
  have notEmpty := (accept_eq_ok_iff.1 h.accepted).2.1
  have notHere : name ≠ "." := by
    rintro rfl
    exact absurd h.notDots (by decide)
  rw [Path.parentSteps_eq notEmpty h.noSlash h.last notHere]
  exact walk_filter_here h.way

theorem createParent (h : tree.Opens path directory name target) :
    tree.createParent path = (.ok (), tree) := by
  unfold FileTree.createParent
  split
  · rfl
  · rename_i some
    rw [accept_parent h.accepted some]
    exact createDirectories_of_there (by rw [List.reverse_reverse, h.parentSteps]) h.directory

theorem rename (h : tree.Opens path directory name target) (works : tree.faults = [])
    {source : Location} {content : ByteString}
    (stands : tree.lookup? source = some (.file content)) :
    tree.rename source path = (.ok (), (tree.carry source target content).spend) := by
  have noNull := (accept_eq_ok_iff.1 h.accepted).1
  have made : tree.renamed source path = .ok (tree.carry source target content) := by
    simp [renamed, noNull, h.resolved, h.last, h.notDots, stands, h.noSlash, h.free, bind,
      Except.bind, carry]
  rw [FileTree.rename, made]
  exact attempt_of_works works

theorem of_sameBut {after : FileTree} {beside : Location} {content : ByteString}
    (h : tree.Opens path directory name target) (others : SameBut beside tree after)
    (absent : tree.lookup? beside = none)
    (stands : after.lookup? beside = some (.file content)) :
    after.Opens path directory name target := by
  have kept : ∀ location, tree.lookup? location = some .directory →
      after.lookup? location = some .directory :=
    fun _ => others.directory (by simp [absent])
  exact {
    h with
    way := walk_of_directories kept h.way
    directory := kept _ h.directory
    resolved := resolve_of_directories kept h.resolved
    free := by
      by_cases same : target = beside
      · simp [same, stands]
      · rw [others target same]
        exact h.free }

theorem fillAndRename (h : tree.Opens path directory name target) (works : tree.faults = [])
    (content : ByteString) :
    (tree.fillAndRename (tree.besideIn directory) path content).1 = .ok () := by
  let beside := tree.besideIn directory
  let opened := (tree.insert beside (.file [])).spend
  let full := (opened.insert beside (.file content)).spend
  have written : tree.fillAndRename beside path content = full.spend.rename beside path := by
    simp [FileTree.fillAndRename, createFile, fill, sync, andThen, attempt_of_works, insert, spend,
      works, full, opened]
  have others : SameBut beside tree full.spend :=
    ((SameBut.refl beside tree).insert (.file [])).insert (.file content)
  have stands : full.spend.lookup? beside = some (.file content) :=
    lookup?_insert_self opened _ (below_beside_not_fixed List.prefix_rfl)
  have absent : tree.lookup? beside = none := lookup?_below_beside List.prefix_rfl
  have still : full.spend.faults = [] := by simp [full, opened, spend, insert, works]
  rw [written, (h.of_sameBut others absent stands).rename still stands]

end Opens

/-- Where a file could be opened to write it, it is replaced, unless the device fails. -/
theorem replace_of_place {target : Location} (works : tree.faults = [])
    (h : tree.place path = .ok target) (content : ByteString) :
    (tree.replace path content).1 = .ok () := by
  obtain ⟨directory, name, opens⟩ := opens_of_place h
  have done := opens.fillAndRename works content
  unfold replace
  rw [opens.createParent]
  simp only [andThen, opens.parentSteps]
  dsimp only [besideIn] at done ⊢
  cases filled : tree.fillAndRename (directory ++ [tree.freshName]) path content with
  | mk result after =>
    rw [filled] at done
    cases done
    rfl

end FileTree

end LedgerWallet
