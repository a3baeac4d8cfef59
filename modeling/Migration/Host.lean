import Migration.Catalog
import Migration.Configuration
import Migration.Pattern
import Migration.Store

/-!
# The host of a build

All that a build is given besides the script: switches, names with a meaning, texts that are regular
expressions, and files.
-/

namespace Migration

structure Host where
  configuration : Configuration := {}
  catalog : Catalog := .builtin
  isPattern : String → Bool := Pattern.isWellFormed
  store : Store

end Migration
