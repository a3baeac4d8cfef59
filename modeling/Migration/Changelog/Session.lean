import Migration.Changelog
import Migration.Declaration.Call

/-!
# The state of a build

What one build shares among all the changelogs that it reads: the properties declared so far, the
files that are being read, and the warnings.
-/

namespace Migration

structure Session where
  properties : PropertyTable
  /-- The paths of the changelogs that are being read, the outermost first. -/
  openFiles : List String := []
  warnings : List Warning := []

/-- A step of a build. The state is known even after a step that fails. -/
abbrev Build (α : Type) := ExceptT BuildError (StateM Session) α

namespace Build

variable {α : Type}

/-- A step that does not touch the state. -/
def ofExcept (result : Except BuildError α) : Build α :=
  fun session => (result, session)

/-- Where the elements of a changelog stand. -/
def site (log : Changelog) : Build Site :=
  fun session => (.ok { properties := session.properties, path := log.physicalPath }, session)

def warn (warnings : List Warning) : Build Unit :=
  fun session => (.ok (), { session with warnings := session.warnings ++ warnings })

def addProperty (property : Property) : Build Unit :=
  fun session => (.ok (), { session with properties := session.properties.add property })

def addProperties : List Property → Build Unit
  | [] => pure ()
  | property :: properties => do
      addProperty property
      addProperties properties

/-- Refuses a path that is open already. -/
def refuseOpen (path : String) : Build Unit := fun session =>
  if session.openFiles.any (Path.same · path) then
    (.error (.circularInclude path (session.openFiles ++ [path])), session)
  else (.ok (), session)

/-- Runs a step while a path is among the open ones. -/
def opening (path : String) (body : Build α) : Build α := fun session =>
  let (result, after) := body { session with openFiles := session.openFiles ++ [path] }
  (result, { after with openFiles := after.openFiles.dropLast })

end Build

end Migration
