import Migration.BuildError
import Migration.Configuration
import Migration.Toml

/-!
# Configuration files

A configuration is read from a TOML document that has no other keys than those of a configuration.
What the document does not say has its default.
-/

namespace Migration

open Toml (Node Section)

namespace Toml.Node

def text? : Node → Option String
  | .text s => some s
  | _ => none

def bool? : Node → Option Bool
  | .bool b => some b
  | _ => none

def count? : Node → Option Nat
  | .int n => if n < 0 then none else some n.toInt.toNat
  | _ => none

def texts? : Node → Option (List String)
  | .array items => items.mapM text?
  | _ => none

end Toml.Node

namespace Environment

/-- Takes the value of a key, which must be known. -/
def take? (environment : Environment) (key : Toml.Key) (node : Node) : Option Environment :=
  match key with
  | ["dbms"] => node.text?.map fun text => { environment with dbms := some text }
  | ["contexts"] => node.texts?.map fun contexts => { environment with contexts }
  | ["labels"] => node.text?.map fun text => { environment with labels := some text }
  | _ => none

/-- The environment that a value describes: a table, or a list of its parts in their order. -/
def ofNode? : Node → Option Environment
  | .table pairs => pairs.foldlM (fun environment pair => environment.take? pair.1 pair.2) {}
  | .array items =>
      ([["dbms"], ["contexts"], ["labels"]].zip items).foldlM
        (fun environment pair => environment.take? pair.1 pair.2) {}
  | _ => none

end Environment

namespace Configuration

/-- Takes the value of a key, which must be known. -/
def take? (configuration : Configuration) (key : Toml.Key) (node : Node) :
    Option Configuration :=
  match key with
  | ["relative_path_fixup"] =>
      node.bool?.map fun b => { configuration with relativePathFixup := b }
  | ["strict_rollback_references"] =>
      node.bool?.map fun b => { configuration with strictRollbackReferences := b }
  | ["strict_parameters"] =>
      node.bool?.map fun b => { configuration with strictParameters := b }
  | ["max_expansion_passes"] =>
      node.count?.map fun n => { configuration with maxExpansionPasses := n }
  | ["host_include_labels"] =>
      node.bool?.map fun b => { configuration with hostIncludeLabels := b }
  | ["environment"] =>
      (Environment.ofNode? node).map fun environment => { configuration with environment }
  | "environment" :: key =>
      (configuration.environment.take? key node).map fun environment =>
        { configuration with environment }
  | _ => none

/-- The pairs of a section with whole keys. The only section with a header is that of the
environment. -/
def pairs? (part : Section) : Option (List (Toml.Key × Node)) :=
  match part.header with
  | none => some part.pairs
  | some ["environment"] =>
      some (part.pairs.map fun pair => ("environment" :: pair.1, pair.2))
  | some _ => none

/-- Whether a table is given twice, by a header, as a value or by dotted keys. -/
def hasSecondTable (sections : List Section) : Bool :=
  let headers := sections.filter fun part => part.header.isSome
  let keys := (sections.filter fun part => part.header.isNone).flatMap fun part =>
    part.pairs.map (·.1)
  let values := keys.filter (· = ["environment"])
  let dotted := keys.filter fun key => key.head? = some "environment" && key.length > 1
  headers.length + values.length + (if dotted.isEmpty then 0 else 1) > 1

def repeatsKey (pairs : List (Toml.Key × Node)) : Bool :=
  !decide (pairs.map (·.1)).Nodup

/-- Whether a table that is given as a value repeats a key. -/
def repeatsInside : Node → Bool
  | .table pairs => repeatsKey pairs
  | _ => false

/-- The configuration of a document, if it is well formed. -/
def ofSections? (sections : List Section) : Option Configuration := do
  let pairs := (← sections.mapM pairs?).flatten
  if hasSecondTable sections || repeatsKey pairs ||
      pairs.any fun pair => repeatsInside pair.2 then none
  pairs.foldlM (fun configuration pair => configuration.take? pair.1 pair.2) {}

/-- Reads a configuration. -/
def ofText (source : String) : Except BuildError Configuration :=
  match (Toml.parse? source).bind ofSections? with
  | none => .error (.configuration .malformed)
  | some configuration =>
      if configuration.maxExpansionPasses = 0 then .error (.configuration .noPasses)
      else .ok configuration

end Configuration

end Migration
