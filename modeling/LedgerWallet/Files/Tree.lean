import LedgerWallet.Bytes
import LedgerWallet.Files.Error
import LedgerWallet.Files.Path

namespace LedgerWallet

/-- The names on the way to an entry. A location that begins with the name `/` is counted from the
root, and any other one from the working directory; only in front does it hold `..`. -/
abbrev Location := List String

inductive Entry where
  | file (content : ByteString)
  | directory
  deriving DecidableEq

/-- A failure of the device: what it reports, and how many bytes of a write came through. -/
structure Fault where
  error : IoError
  written : Nat
  deriving DecidableEq

structure FileTree where
  entries : List (Location × Entry)
  /-- What the device does with each step to come that changes something: `none` if the step works.
  Behind the end of the list they all work. -/
  faults : List (Option Fault)
  deriving DecidableEq

namespace FileTree

def empty : FileTree := ⟨[], []⟩

def root : String := "/"

def isAround (location : Location) : Bool := location.all (· = "..")

def isOutside (location : Location) : Bool :=
  location.head? = some root || location.head? = some ".."

def above (location : Location) : Location :=
  if location = [root] then location
  else if isAround location then location ++ [".."]
  else location.dropLast

/-- The root, the working directory and those above it are always there. -/
def lookup? (tree : FileTree) (location : Location) : Option Entry :=
  if location = [root] ∨ isAround location then some .directory
  else (tree.entries.find? fun entry => entry.1 = location).map Prod.snd

def content? (tree : FileTree) (location : Location) : Option ByteString :=
  match tree.lookup? location with
  | some (.file content) => some content
  | _ => none

def insert (tree : FileTree) (location : Location) (entry : Entry) : FileTree :=
  { tree with
    entries := tree.entries.filter (fun other => other.1 ≠ location) ++ [(location, entry)] }

def erase (tree : FileTree) (location : Location) : FileTree :=
  { tree with entries := tree.entries.filter fun other => !location.isPrefixOf other.1 }

def move (tree : FileTree) (source target : Location) : FileTree :=
  let moved := tree.entries.filterMap fun other =>
    if source.isPrefixOf other.1 then some (target ++ other.1.drop source.length, other.2) else none
  { tree with entries := ((tree.erase source).erase target).entries ++ moved }

def isEmptyDirectory (tree : FileTree) (location : Location) : Bool :=
  tree.entries.all fun other => other.1 = location || !location.isPrefixOf other.1

def nameLimit : Nat := 255

def pathLimit : Nat := 4095

def step (tree : FileTree) (location : Location) (name : String) : Except IoError Location :=
  match tree.lookup? location with
  | none => .error .notFound
  | some (.file _) => .error .notDirectory
  | some .directory =>
    if name = "." then .ok location
    else if name = ".." then .ok (above location)
    else if nameLimit < Utf8.size name.toList then .error .nameTooLong
    else .ok (location ++ [name])

def walk (tree : FileTree) : Location → List String → Except IoError Location
  | location, [] => .ok location
  | location, name :: names => do walk tree (← tree.step location name) names

def start (path : Path) : Location :=
  if path.isAbsolute then [root] else []

def accept (path : Path) : Except IoError Unit :=
  if path.hasNull then .error .nullInName
  else if path.text = "" then .error .notFound
  else if pathLimit < path.size then .error .nameTooLong
  else .ok ()

def resolve (tree : FileTree) (path : Path) : Except IoError Location := do
  accept path
  tree.walk (start path) path.steps

def find (tree : FileTree) (path : Path) : Except IoError Entry := do
  let location ← tree.resolve path
  match tree.lookup? location with
  | none => .error .notFound
  | some (.file content) => if path.endsInSlash then .error .notDirectory else .ok (.file content)
  | some .directory => .ok .directory

def contains (tree : FileTree) (path : Path) : Bool :=
  (tree.find path).isOk

def read (tree : FileTree) (path : Path) : Except IoError ByteString := do
  match ← tree.find path with
  | .file content => .ok content
  | .directory => .error .isDirectory

def nextFault (tree : FileTree) : Option Fault := tree.faults.head?.join

def spend (tree : FileTree) : FileTree := { tree with faults := tree.faults.tail }

/-- Takes a step that leaves `done`, or what `partly` tells if the device fails. -/
def attempt (tree done : FileTree) (partly : Fault → FileTree) : Except IoError Unit × FileTree :=
  match tree.nextFault with
  | none => (.ok (), done.spend)
  | some fault => (.error fault.error, (partly fault).spend)

def andThen (step : Except IoError Unit × FileTree)
    (next : FileTree → Except IoError Unit × FileTree) : Except IoError Unit × FileTree :=
  match step with
  | (.ok (), tree) => next tree
  | (.error error, tree) => (.error error, tree)

def createFile (tree : FileTree) (location : Location) : Except IoError Unit × FileTree :=
  tree.attempt (tree.insert location (.file [])) fun _ => tree

/-- Writes all of a file. When the device fails only the front of the content is in it. -/
def fill (tree : FileTree) (location : Location) (content : ByteString) :
    Except IoError Unit × FileTree :=
  tree.attempt (tree.insert location (.file content)) fun fault =>
    tree.insert location (.file (content.take fault.written))

def sync (tree : FileTree) : Except IoError Unit × FileTree :=
  tree.attempt tree fun _ => tree

/-- Where a file is written. A path that asks for a directory is refused before its last name is
looked at. -/
def place (tree : FileTree) (path : Path) : Except IoError Location := do
  accept path
  let directory ← tree.walk (start path) path.steps.dropLast
  let _ ← tree.step directory "."
  if path.endsInSlash then throw .isDirectory
  let location ← tree.walk directory path.steps.getLast?.toList
  if tree.lookup? location = some .directory then .error .isDirectory
  else .ok location

/-- Writes a file over the one that is there, of which nothing stays even if that fails half-way. -/
def write (tree : FileTree) (path : Path) (content : ByteString) :
    Except IoError Unit × FileTree :=
  match tree.place path with
  | .error error => (.error error, tree)
  | .ok location => andThen (tree.createFile location) fun tree => tree.fill location content

def isDirectoryAt (tree : FileTree) (location : Location) (names : List String) : Bool :=
  match tree.walk location names with
  | .ok location => tree.lookup? location = some .directory
  | .error _ => false

def createDirectory (tree : FileTree) (location : Location) (names : List String) :
    Except IoError Unit × FileTree :=
  match tree.walk location names with
  | .error error => (.error error, tree)
  | .ok location =>
    match tree.lookup? location with
    | some _ => (.error .alreadyExists, tree)
    | none => tree.attempt (tree.insert location .directory) fun _ => tree

/-- Makes a directory below `location` and those on the way to it. The names are given from the
last one to the first. -/
def createDirectories (location : Location) :
    FileTree → List String → Except IoError Unit × FileTree
  | tree, [] => (.ok (), tree)
  | tree, name :: above =>
    let names := (name :: above).reverse
    let unlessThere (error : IoError) (tree : FileTree) : Except IoError Unit × FileTree :=
      (if tree.isDirectoryAt location names then .ok () else .error error, tree)
    match tree.createDirectory location names with
    | (.ok (), tree) => (.ok (), tree)
    | (.error .notFound, tree) =>
      andThen (createDirectories location tree above) fun tree =>
        match tree.createDirectory location names with
        | (.ok (), tree) => (.ok (), tree)
        | (.error error, tree) => unlessThere error tree
    | (.error error, tree) => unlessThere error tree

def createParent (tree : FileTree) (path : Path) : Except IoError Unit × FileTree :=
  if path.parent.text = "" then (.ok (), tree)
  else
    match accept path.parent with
    | .error error => (.error error, tree)
    | .ok () => createDirectories (start path) tree path.parentSteps.reverse

def isDots (name : String) : Bool := name = "." || name = ".."

/-- The tree after the entry at a location was moved to a path. A file takes the place of a file, and
a directory that of an empty directory. -/
def renamed (tree : FileTree) (source : Location) (path : Path) : Except IoError FileTree := do
  if path.hasNull then throw .invalidArgument
  let target ← tree.resolve path
  if path.steps.getLast?.all isDots then .error .busy
  else
    match tree.lookup? source, tree.lookup? target with
    | none, _ => .error .notFound
    | some (.file content), entry =>
      if path.endsInSlash then .error .notDirectory
      else if entry = some .directory then .error .isDirectory
      else .ok ((tree.erase source).insert target (.file content))
    | some .directory, some (.file _) => .error .notDirectory
    | some .directory, some .directory =>
      if source = target then .ok tree
      else if tree.isEmptyDirectory target then .ok (tree.move source target)
      else .error .notEmpty
    | some .directory, none => .ok (tree.move source target)

def rename (tree : FileTree) (source : Location) (path : Path) : Except IoError Unit × FileTree :=
  match tree.renamed source path with
  | .error error => (.error error, tree)
  | .ok renamed => tree.attempt renamed fun _ => tree

def freshName (tree : FileTree) : String :=
  let lengths := tree.entries.flatMap fun entry => entry.1.map String.length
  String.ofList (List.replicate (lengths.foldl max 0 + 1) 't')

def fillAndRename (tree : FileTree) (beside : Location) (path : Path) (content : ByteString) :
    Except IoError Unit × FileTree :=
  andThen (tree.createFile beside) fun tree =>
  andThen (tree.fill beside content) fun tree =>
  andThen tree.sync fun tree => tree.rename beside path

/-- Writes a file beside its path and then renames it, so that the path never names half a file.
What was written beside does not stay when one of the steps fails. -/
def replace (tree : FileTree) (path : Path) (content : ByteString) :
    Except IoError Unit × FileTree :=
  andThen (tree.createParent path) fun tree =>
    match tree.walk (start path) path.parentSteps with
    | .error error => (.error error, tree)
    | .ok directory =>
      let beside := directory ++ [tree.freshName]
      match tree.fillAndRename beside path content with
      | (.ok (), tree) => (.ok (), tree)
      | (.error error, tree) => (.error error, tree.erase beside)

end FileTree

end LedgerWallet
