import Migration.Main
import Migration.Proofs.Build.Absence
import Migration.Proofs.Build.Directory
import Migration.Proofs.Build.Enclosed
import Migration.Proofs.Build.Front
import Migration.Proofs.Build.Policies
import Migration.Proofs.Build.Preconditions
import Migration.Proofs.Build.Reordering
import Migration.Proofs.Build.Rollback
import Migration.Proofs.Build.Strict
import Migration.Proofs.Build.Typed
import Migration.Proofs.Declaration.LastBlock
import Migration.Proofs.Declaration.Naming
import Migration.Proofs.Declaration.Parts
import Migration.Proofs.Declaration.Query
import Migration.Proofs.Disk.Root
import Migration.Proofs.Filter.Group
import Migration.Proofs.Moment.Layout
import Migration.Proofs.Path.Absolute
import Migration.Proofs.Path.Extension
import Migration.Proofs.Path.Relative
import Migration.Proofs.Property.Chain
import Migration.Proofs.Property.Layout
import Migration.Proofs.Property.Reference
import Migration.Proofs.Property.Replacement
import Migration.Proofs.Schema.Coercion
import Migration.Proofs.Script.Fault
import Migration.Proofs.Store
