import Migration.BuildError
import Migration.Path

/-!
# Stores

Where scripts and property files are read from. A store in memory holds files under canonical
paths.
-/

namespace Migration

structure Store where
  /-- The text of a file. -/
  read : String → Except ResourceProblem String
  /-- The paths of the files in a directory, with those further down if the flag is set. -/
  list : String → Bool → Except ResourceProblem (List String)
  /-- How many scripts can include one another in a row before one includes itself. -/
  depth : Nat

namespace Store

/-- The text of a file, or the cause why there is none. -/
def text (store : Store) (path : String) : Except BuildError String :=
  (store.read path).mapError (.resource path)

/-- The files of a directory, or the cause why they cannot be listed. -/
def files (store : Store) (directory : String) (recursive : Bool) :
    Except BuildError (List String) :=
  (store.list directory recursive).mapError (.resource directory)

end Store

/-! ## Files in memory -/

/-- Files by their canonical paths. -/
structure MemoryStore where
  contents : NameMap String := .empty

namespace MemoryStore

def insert (store : MemoryStore) (path content : String) : MemoryStore :=
  ⟨store.contents.insert (Path.normalize path) content⟩

def ofList (files : List (String × String)) : MemoryStore :=
  files.foldl (fun store file => store.insert file.1 file.2) {}

def read (store : MemoryStore) (path : String) : Except ResourceProblem String :=
  match store.contents.get? (Path.normalize path) with
  | some content => .ok content
  | none => .error .notFound

/-- Whether a path lies in a directory, directly unless the flag is set. -/
def isBelow (directory : List Char) (recursive : Bool) (path : List Char) : Bool :=
  directory.isPrefixOf path &&
    (let rest := path.drop directory.length
     rest ≠ [] && (recursive || !rest.contains '/'))

/-- The paths in a directory, in the order of their code points. -/
def list (store : MemoryStore) (directory : String) (recursive : Bool) : List String :=
  let directory := (Path.asDirectory directory).toList
  store.contents.keys.filter fun path => isBelow directory recursive path.toList

def toStore (store : MemoryStore) : Store where
  read := store.read
  list directory recursive := .ok (store.list directory recursive)
  depth := store.contents.size + 2

end MemoryStore

end Migration
