/-!
# Directories

Files by their names, as a program sees them that runs in their directory. A path is walked name by
name, and every name but the last must be that of a directory. Paths from the root on lead to what
every system has: an empty file and the standard input.
-/

namespace Tapewalk

/-- What is found at the end of a path. -/
inductive Found where
  /-- A file that can be read again and again. -/
  | contents (bytes : Array UInt8)
  /-- What is given to the program while it runs, and can be read once. -/
  | standardInput
  deriving DecidableEq, Repr, Inhabited

/-- Files with the paths under which they are found. -/
structure Directory where
  entries : List (String × Found)
  /-- Nothing is above the directory. -/
  isRoot : Bool := false
  deriving Repr, Inhabited

namespace Directory

/-- The directory of the given files. -/
def ofFiles (files : List (String × Array UInt8)) : Directory :=
  ⟨files.map fun (path, bytes) => (path, .contents bytes), false⟩

/-- What every system has. -/
def system : Directory where
  entries := [("dev/null", .contents #[]), ("dev/stdin", .standardInput),
    ("dev/fd/0", .standardInput), ("proc/self/fd/0", .standardInput)]
  isRoot := true

/-- The names along a path. -/
def namesOf (path : String) : List String := path.splitOn "/"

/-- A directory is on the way to one of the files; it is given by the names along its path. -/
def isDirectory (d : Directory) (names : List String) : Bool :=
  names.isEmpty || d.entries.any fun (path, _) =>
    names.isPrefixOf (namesOf path) && names.length < (namesOf path).length

/-- The directory above one that is given by its names. The root is above itself. -/
def above? (d : Directory) (names : List String) : Option (List String) :=
  if names.isEmpty && !d.isRoot then none else some names.dropLast

/-- Walks from a directory along more names. -/
def walk (d : Directory) (here : List String) : List String → Option (List String)
  | [] => some here
  | name :: rest =>
    if !d.isDirectory here then none
    else if name = "" ∨ name = "." then d.walk here rest
    else if name = ".." then do d.walk (← d.above? here) rest
    else d.walk (here ++ [name]) rest

/-- What is found along names from the directory on. -/
def follow? (d : Directory) (names : List String) : Option Found := do
  let names ← d.walk [] names
  let (_, found) ← d.entries.find? fun (path, _) => namesOf path = names
  return found

/-- What is found at a path, which starts at the root if it starts with a slash. -/
def find? (d : Directory) (path : String) : Option Found :=
  (if path.startsWith "/" then system else d).follow? (namesOf path)

end Directory

end Tapewalk
