import Migration.Property.Table

/-!
# Configuration

The switches of a build and the target that it is meant for.
-/

namespace Migration

structure Configuration where
  /-- Whether listed paths are cut down to what follows the listed directory's place. -/
  relativePathFixup : Bool := true
  /-- Whether a rollback that refers to a changeset has to name its author. -/
  strictRollbackReferences : Bool := false
  /-- Whether changes and checks have to have all parameters that are required. -/
  strictParameters : Bool := false
  maxExpansionPasses : Nat := 10
  /-- Whether inclusions of files may have labels and may be ignored. -/
  hostIncludeLabels : Bool := true
  environment : Environment := {}

end Migration
