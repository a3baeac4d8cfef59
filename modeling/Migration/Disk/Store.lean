import Migration.Disk
import Migration.Store

/-!
# Stores on a disk

A store on a disk reads plain paths from its root directory, absolute ones from the root of the
disk, and virtual ones from the first of a list of directories in which they exist. Listings of
plain directories are absolute; those of virtual ones stay virtual.
-/

namespace Migration

structure DiskStore where
  disk : Disk
  /-- Where paths begin that lead on from no other place. -/
  workingDirectory : Disk.Place
  /-- The path of the directory of plain paths. -/
  root : String
  /-- The paths of the directories that make up the virtual root. -/
  virtualRoots : List String := []

namespace DiskStore

/-- A path that leads on from another one. -/
def join (base path : String) : String :=
  if path.toList.head? = some '/' ∨ base = "" then path
  else if base.toList.getLast? = some '/' then base ++ path
  else base ++ "/" ++ path

/-- A virtual path behind its mark and the separators that follow it. -/
def behindMark (path : String) : String :=
  String.ofList ((path.toList.drop Path.virtualRoot.length).dropWhile (· = '/'))

/-- The paths on the disk that a path may stand for. -/
def candidates (store : DiskStore) (path : String) : List String :=
  if Path.isVirtual path then store.virtualRoots.map fun root => join root (behindMark path)
  else if Path.isAbsolute path then [path]
  else [join store.root path]

def locate (store : DiskStore) (path : String) : Except ResourceProblem Disk.Way :=
  (store.disk.locate store.workingDirectory path).mapError .unexplored

/-- The text of the first of some paths that lead to a file. -/
def readFirst (store : DiskStore) : List String → Except ResourceProblem String
  | [] => .error .notFound
  | path :: paths => do
      match ← store.locate path with
      | .leads _ (.file (some content)) => return content
      | .leads _ (.file none) => .error .notText
      | _ => store.readFirst paths

def read (store : DiskStore) (path : String) : Except ResourceProblem String :=
  store.readFirst (store.candidates path)

/-- The files in the directory to which a path leads, if it leads to one. -/
def filesIn (store : DiskStore) (path : String) (recursive : Bool) :
    Except ResourceProblem (Option (Disk.Place × List Disk.Place)) := do
  match ← store.locate path with
  | .leads place (.directory entries) =>
      let files ←
        (if recursive then Disk.filesOf place entries
          else Disk.filesDirectlyIn place entries).mapError .unexplored
      return some (place, files)
  | _ => return none

def joinNames (names : Disk.Place) : String :=
  "/".intercalate names

/-- A path in a virtual directory, without separators and points at its beginning. -/
def trimPoints : List (List Char) → List (List Char)
  | [] => []
  | segment :: segments =>
      if segment = [] ∨ segment = ['.'] then trimPoints segments else segment :: segments

/-- The virtual path of a file in a virtual directory that is given without the mark. -/
def virtualPath (directory : String) (file : Disk.Place) : String :=
  let segments := Text.split '/' (join directory (joinNames file)).toList
  String.ofList (Path.virtualRoot ++ Path.slashed (Path.join (trimPoints segments)))

def absolutePath (place : Disk.Place) : String :=
  String.ofList (Path.slashed ("/" ++ joinNames place).toList)

/-- The files in a directory on each of some virtual roots. -/
def listVirtual (store : DiskStore) (directory : String) (recursive : Bool) :
    List String → Except ResourceProblem (List String)
  | [] => .ok []
  | root :: roots => do
      let found ← store.filesIn (join root directory) recursive
      let others ← store.listVirtual directory recursive roots
      let files := (found.map (·.2)).getD []
      return files.map (virtualPath directory) ++ others

def list (store : DiskStore) (directory : String) (recursive : Bool) :
    Except ResourceProblem (List String) := do
  if Path.isVirtual directory then
    store.listVirtual (behindMark directory) recursive store.virtualRoots
  else
    let base := if Path.isAbsolute directory then directory else join store.root directory
    match ← store.filesIn base recursive with
    | some (place, files) => return files.map fun file => absolutePath (place ++ file)
    | none => return []

/-- As a path has fewer than `Disk.pathLimit` characters, so has a row of points that go up, and
there are no more paths to one file than that from each of the places where paths begin. -/
def toStore (store : DiskStore) : Store where
  read := store.read
  list := store.list
  depth := Disk.pathLimit * (store.virtualRoots.length + 2) * (store.disk.size + 1)

end DiskStore

end Migration
