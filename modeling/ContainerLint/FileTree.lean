import ContainerLint.IoFault

/-!
# Trees of files

A `FileTree` holds files and folders by their paths from the root. Paths are followed step by
step from a working folder, as the system does it: only a folder can be gone through, and two dots
lead out of one.
-/

namespace ContainerLint

/-- The names on the way from the root to a file or folder. -/
abbrev Route := List String

/-- What a path leads to. -/
inductive FileEntry
  | folder (route : Route)
  | file (bytes : List UInt8)
deriving DecidableEq, Repr

/-- Files with their contents, and folders besides those that hold a file. -/
structure FileTree where
  files : List (Route × List UInt8)
  folders : List Route
deriving DecidableEq, Repr

namespace FileTree

/-- Whether a route leads to a folder. -/
def hasFolder (t : FileTree) (route : Route) : Bool :=
  t.folders.any route.isPrefixOf || t.files.any fun f =>
    route.isPrefixOf f.1 && decide (route ≠ f.1)

/-- What a route leads to. -/
def entry? (t : FileTree) (route : Route) : Option FileEntry :=
  match t.files.lookup route with
  | some bytes => some (.file bytes)
  | none => if t.hasFolder route then some (.folder route) else none

/-- Follows the names of a path from a folder. -/
def follow (t : FileTree) (folder : Route) : List String → Except IoFault FileEntry
  | [] => .ok (.folder folder)
  | name :: rest =>
    if name = "" ∨ name = "." then t.follow folder rest
    else if name = ".." then t.follow folder.dropLast rest
    else
      match t.entry? (folder ++ [name]) with
      | none => .error .notFound
      | some (.folder next) => t.follow next rest
      | some (.file bytes) => if rest.isEmpty then .ok (.file bytes) else .error .notDirectory

/-- Finds what a path leads to from a working folder. -/
def find (t : FileTree) (working : Route) (path : String) : Except IoFault FileEntry :=
  if path = "" then .error .notFound
  else t.follow (if "/".isPrefixOf path then [] else working) (path.splitOn "/")

/-- Whether a path leads to a file. -/
def isFile (t : FileTree) (working : Route) (path : String) : Bool :=
  match t.find working path with
  | .ok (.file _) => true
  | _ => false

/-- The contents of the file that a path leads to. -/
def read (t : FileTree) (working : Route) (path : String) : Except IoFault (List UInt8) :=
  match t.find working path with
  | .ok (.file bytes) => .ok bytes
  | .ok (.folder _) => .error .isDirectory
  | .error fault => .error fault

end FileTree

end ContainerLint
