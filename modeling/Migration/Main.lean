import Migration.Command

/-!
# The program

Runs the command line on the disk of the machine. Nothing is known of the disk at first; each time
the outcome depends on an unexplored place, that place is looked at and the run is repeated.
-/

namespace Migration.Command

/-- Looks at a place of the disk. What cannot be looked at is neither a file nor a directory. -/
def look (place : Disk.Place) : IO Disk := do
  let path := (← IO.currentDir) / ("/" ++ "/".intercalate place)
  try
    match (← path.metadata).type with
    | .dir =>
        let entries ← path.readDir
        return .directory (entries.toList.map fun entry => (entry.fileName, .unexplored))
    | .file => return .file (String.fromUTF8? (← IO.FS.readBinFile path))
    | _ => return .other
  catch _ => return .other

/-- Explores the disk until a run has an outcome. -/
partial def explore (surroundings : Surroundings) (arguments : List String) : IO Outcome := do
  match run surroundings arguments with
  | .ok outcome => return outcome
  | .error place =>
      let node ← look place
      explore { surroundings with disk := surroundings.disk.insert place node } arguments

/-- The place of the working directory, and the variables that are set. -/
def surroundings : IO Surroundings := do
  let here := (← IO.currentDir).toString
  let settings ← settingNames.filterMapM fun name => do
    return (← IO.getEnv name).map fun value => (name, value)
  return {
    disk := .unexplored
    workingDirectory := ((Text.split '/' here.toList).filter (· ≠ [])).map String.ofList
    setting := fun name => settings.lookup name }

end Migration.Command

def main (arguments : List String) : IO UInt32 := do
  let outcome ← Migration.Command.explore (← Migration.Command.surroundings) arguments
  outcome.output.forM fun line => IO.println line
  outcome.errors.forM fun line => IO.eprintln line
  return outcome.exitCode.toUInt32
