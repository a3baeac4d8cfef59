import Migration.Text.Case
import Migration.Text.Split

/-!
# Resource paths

A path is relative, or absolute, or lies on the virtual root that a prefix marks. `normalize`
gives its canonical form, which keeps a closing separator so that directories stay recognisable.
-/

namespace Migration.Path

/-- The mark of paths on the virtual root. -/
def virtualRoot : List Char :=
  "classpath:".toList

def isSeparator (c : Char) : Bool :=
  c = '/' || c = '\\'

/-- A path with forward separators only. -/
def slashed (path : List Char) : List Char :=
  path.map fun c => if c = '\\' then '/' else c

/-- The mark of the virtual root, if a path begins with it, and the path behind it. -/
def splitRoot (path : List Char) : List Char × List Char :=
  if virtualRoot.isPrefixOf path then (virtualRoot, path.drop virtualRoot.length) else ([], path)

/-- Takes one more segment, given the segments so far with the last one first. -/
def walk (absolute : Bool) (segments : List (List Char)) (segment : List Char) :
    List (List Char) :=
  if segment = [] ∨ segment = ['.'] then segments
  else if segment = ['.', '.'] then
    match segments with
    | [] => if absolute then [] else [segment]
    | last :: before =>
        if last ≠ ['.', '.'] then before
        else if absolute then segments
        else segment :: segments
  else segment :: segments

/-- The segments of a path that are left when `.` stays and `..` goes up where it can. -/
def segments (absolute : Bool) (path : List Char) : List (List Char) :=
  ((Text.split '/' path).foldl (walk absolute) []).reverse

def join (parts : List (List Char)) : List Char :=
  List.intercalate ['/'] parts

def normalizeChars (path : List Char) : List Char :=
  let (root, rest) := splitRoot (slashed path)
  let absolute := rest.head? = some '/'
  let trailing := rest.length > 1 ∧ rest.getLast? = some '/'
  let parts := segments absolute rest
  root ++ (if absolute then ['/'] else []) ++ join parts ++
    (if trailing ∧ parts ≠ [] then ['/'] else [])

/-- The canonical form of a path. -/
def normalize (path : String) : String :=
  String.ofList (normalizeChars path.toList)

/-- The canonical form of a directory: it ends in a separator unless it is empty. -/
def asDirectory (path : String) : String :=
  let directory := normalizeChars path.toList
  String.ofList
    (if directory = [] ∨ directory.getLast? = some '/' then directory else directory ++ ['/'])

def parentChars (path : List Char) : List Char :=
  let parent := (path.reverse.dropWhile fun c => !isSeparator c).reverse
  if parent = [] then (splitRoot path).1 else parent

/-- The directory part of a path, up to and with its last separator. Where there is none it is the
mark of the virtual root or nothing. -/
def parent (path : String) : String :=
  String.ofList (parentChars path.toList)

/-- A path as seen from the directory of `base`. -/
def relativeTo (base path : String) : String :=
  normalize (parent base ++ path)

def isVirtual (path : String) : Bool :=
  virtualRoot.isPrefixOf path.toList

/-- A path that begins with a separator or with a drive letter, a colon and a separator. -/
def isAbsolute (path : String) : Bool :=
  match slashed path.toList with
  | '/' :: _ => true
  | drive :: ':' :: '/' :: _ => drive.isAlpha
  | _ => false

/-- Whether two paths are one up to the kind of their separators. -/
def same (a b : String) : Bool :=
  slashed a.toList == slashed b.toList

/-- The extension of changelog scripts. -/
def scriptExtension : String :=
  "qcl"

/-- Whether a path ends in a point and the extension of changelog scripts, in any letter case,
with something before the point. -/
def isScript (path : String) : Bool :=
  let extension := path.toList.reverse.takeWhile (· ≠ '.')
  let stem := (path.toList.reverse.dropWhile (· ≠ '.')).drop 1
  stem ≠ [] && Text.sameLetters extension.reverse scriptExtension.toList

theorem same_refl (path : String) : same path path = true := by
  simp [same]

example : normalize "./db/./x/../a.qcl" = "db/a.qcl" := by decide
example : normalize "classpath:/db/../x//" = "classpath:/x/" := by decide
example : relativeTo "db\\x\\main.qcl" "../a.qcl" = "db/a.qcl" := by decide
example : isScript "dir/A.QCL" = true := by decide
example : isScript ".qcl" = false ∧ isScript "qcl" = false := by decide

end Migration.Path
