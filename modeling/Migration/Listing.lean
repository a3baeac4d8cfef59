import Migration.Host

/-!
# Listing directories

The scripts of a directory in the order in which they are included. Only paths of scripts count,
and of those only the ones that a filter accepts. Each path stands once, in the order of a
comparator, and where that has no preference in the order of code points.
-/

namespace Migration.Listing

structure Options where
  accepts : Option (String → Bool) := none
  compare : Option (String → String → Ordering) := none
  /-- Whether it is an error that there is nothing to list. -/
  demanded : Bool := true

/-- The directory that is listed: as given, or as seen from the directory of a file. -/
def place (base : String) (relative : Bool) (directory : String) : String :=
  let directory := Path.asDirectory directory
  if relative then Path.asDirectory (Path.parent base ++ directory) else directory

def admits (options : Options) (path : String) : Bool :=
  Path.isScript path &&
    (match options.accepts with
     | some accepts => accepts path
     | none => true)

/-- A path without what stands before the place of the listed directory. -/
def cutToPlace (place path : String) : String :=
  String.ofList (Text.fromFirst place.toList path.toList)

/-- Whether paths are cut to the place of a directory: not if it is absolute or virtual. -/
def isCut (fixup : Bool) (directory : String) : Bool :=
  let directory := Path.asDirectory directory
  fixup && !Path.isAbsolute directory && !Path.isVirtual directory

/-- The different texts of a list in the order of their code points. -/
def distinct (paths : List String) : List String :=
  (NameMap.ofList (paths.map fun path => (path, ()))).keys

/-- Orders paths by a comparator, and keeps the order of those that it calls equal. -/
def order (compare : Option (String → String → Ordering)) (paths : List String) : List String :=
  match compare with
  | some compare => paths.mergeSort fun a b => compare a b ≠ .gt
  | none => paths

/-- Lists a directory that is given as such or, if the flag is set, as seen from the directory of
`base`. -/
def list (store : Store) (fixup : Bool) (base : String) (relative : Bool) (directory : String)
    (recursive : Bool) (options : Options) : Except BuildError (List String) := do
  let place := place base relative directory
  let listed ← store.files place recursive
  let admitted := listed.filter (admits options)
  let cut := if isCut fixup directory then admitted.map (cutToPlace place) else admitted
  let paths := order options.compare (distinct cut)
  if paths = [] ∧ options.demanded then
    .error (.resource (Path.asDirectory directory) .emptyDirectory)
  else return paths

end Migration.Listing
