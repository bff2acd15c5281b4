/-!
# Files

A snapshot of the files below a working directory, and what reading one of them by its path
gives. A path is walked component by component: a missing component ends the walk, and so does
one that would have to be a directory and is a file, or one whose name is too long. The walk
may leave the working directory through its parent, where nothing but directories above it is
known.
-/

namespace ScopeScript

/-- Why a file cannot be read. -/
inductive ReadFailure where
  | notFound
  | notDirectory
  | isDirectory
  | nameTooLong
  | notText
  deriving Repr, DecidableEq

namespace ReadFailure

/-- The failure in words. -/
def message : ReadFailure → String
  | notFound => "No such file or directory (os error 2)"
  | notDirectory => "Not a directory (os error 20)"
  | isDirectory => "Is a directory (os error 21)"
  | nameTooLong => "File name too long (os error 36)"
  | notText => "stream did not contain valid UTF-8"

end ReadFailure

/-- What stands under a path. -/
inductive FileEntry where
  | file (content : ByteArray)
  | directory
  deriving Inhabited

/-- The files and empty directories below the working directory, by the components of their
paths. A directory that holds something is not listed itself. -/
structure Files where
  entries : List (List String × FileEntry)
  deriving Inhabited

namespace Files

/-- The most bytes that a component of a path may have. -/
def nameLimit : Nat := 255

/-- The least length of a path that is too long, in bytes. -/
def pathLimit : Nat := 4096

/-- The components of a path; slashes in a row and at the ends leave empty ones. -/
def components (path : String) : List String := path.splitOn "/"

/-- Files from pairs of a relative path and what stands there. -/
def ofList (entries : List (String × FileEntry)) : Files :=
  ⟨entries.map fun (path, entry) =>
    ((components path).filter fun c => c != "" && c != ".", entry)⟩

/-- What stands below the working directory at a list of components. -/
def entryAt? (files : Files) (place : List String) : Option FileEntry :=
  if place.isEmpty then some .directory
  else
    match files.entries.find? fun (p, _) => p == place with
    | some (_, entry) => some entry
    | none =>
      if files.entries.any fun (p, _) => place.isPrefixOf p then some .directory else none

/-- A place that a walk has reached. -/
inductive Place where
  /-- Below the working directory, or the directory itself. -/
  | inside (components : List String) (entry : FileEntry)
  /-- A directory above the working directory. -/
  | outside

namespace Place

/-- Whether a walk may go on from here. -/
def isDirectory : Place → Bool
  | inside _ (.file _) => false
  | _ => true

/-- The directory around a place. -/
def parent : Place → Place
  | inside [] _ => outside
  | inside components _ => inside components.dropLast .directory
  | outside => outside

end Place

/-- One step of a walk. An empty component, like a single point, stays in place but needs a
directory there. -/
def step (files : Files) (place : Place) (component : String) : Except ReadFailure Place :=
  if !place.isDirectory then .error .notDirectory
  else if component == "" || component == "." then .ok place
  else if component == ".." then .ok place.parent
  else if component.utf8ByteSize > nameLimit then .error .nameTooLong
  else
    match place with
    | .outside => .error .notFound
    | .inside components _ =>
      let components := components ++ [component]
      match files.entryAt? components with
      | some entry => .ok (.inside components entry)
      | none => .error .notFound

/-- Walk a path from the working directory, or from the root of all files if it starts with a
slash. -/
def walk (files : Files) (path : String) : Except ReadFailure Place :=
  if path.isEmpty then .error .notFound
  else if path.utf8ByteSize ≥ pathLimit then .error .nameTooLong
  else
    let start := if path.startsWith "/" then Place.outside else .inside [] .directory
    (components path).foldlM files.step start

/-- Whether something stands at a path. -/
def exists? (files : Files) (path : String) : Bool :=
  match files.walk path with
  | .ok _ => true
  | .error _ => false

/-- The text of the file at a path. -/
def read (files : Files) (path : String) : Except ReadFailure String := do
  match ← files.walk path with
  | .inside _ (.file content) =>
    match String.fromUTF8? content with
    | some text => return text
    | none => throw .notText
  | _ => throw .isDirectory

/-- The path of a name in a directory; an empty directory is the working directory. -/
def join (directory name : String) : String :=
  if directory.isEmpty then name
  else if directory.endsWith "/" then directory ++ name
  else directory ++ "/" ++ name

end Files

end ScopeScript
