import Migration.Number.Binary64

/-!
# Script trees

A changelog script is a list of elements. An element has a name, arguments, perhaps a block of
elements and bare texts, and the line of its name.
-/

namespace Migration

/-- A value as written, before properties are resolved. A bare name refers to a property. -/
inductive Literal where
  | str (s : String)
  | int (n : Int64)
  | float (x : Number.Binary64)
  | bool (b : Bool)
  | null
  | reference (name : String)
  | list (items : List Literal)
  deriving Inhabited

/-- A named or positional argument. -/
structure Argument where
  key : Option String
  value : Literal
  deriving Inhabited

/-- What may stand in a block: a bare text or an element. -/
inductive Item (α : Type) where
  | text (s : String)
  | element (e : α)

structure Element where
  name : String
  arguments : List Argument
  /-- No block is something else than an empty one. -/
  block : Option (List (Item Element))
  line : Nat

namespace Element

def items (e : Element) : List (Item Element) :=
  e.block.getD []

def hasNamed (e : Element) : Bool :=
  e.arguments.any fun argument => argument.key.isSome

def hasPositional (e : Element) : Bool :=
  e.arguments.any fun argument => argument.key.isNone

end Element

/-- A parsed script: its elements in order. -/
structure Script where
  elements : List Element

end Migration
