import Migration.Changelog.Build
import Migration.Configuration.File
import Migration.Disk.Store
import Migration.Report.Document
import Migration.Report.Outline

/-!
# The command line

What the program does with its arguments: it checks a changelog, shows it, or lists the names that
it knows. A run is a function of the arguments, the variables and the disk. Where it depends on an
unexplored place its answer is that place.
-/

namespace Migration.Command

inductive Format where
  | outline
  | document

inductive Action where
  | check (file : String)
  | print (file : String) (format : Format)
  | listNames

/-- Options that may stand before and behind the name of an action. -/
structure Options where
  config : Option String := none
  classpath : List String := []
  verbose : Bool := false

/-- What the arguments ask for. -/
inductive Request where
  | act (options : Options) (action : Action)
  | version
  | malformed

structure Outcome where
  exitCode : Nat := 0
  output : List String := []
  errors : List String := []

/-- What surrounds a run. -/
structure Surroundings where
  disk : Disk
  workingDirectory : Disk.Place
  setting : String → Option String

/-! ## Arguments -/

inductive Verb where
  | check
  | print
  | listNames
  deriving DecidableEq

def Verb.ofName? (name : String) : Option Verb :=
  if name = "check" then some .check
  else if name = "show" then some .print
  else if name = "kinds" then some .listNames
  else none

def Format.ofName? (name : String) : Option Format :=
  if name = "tree" then some .outline
  else if name = "json" then some .document
  else none

/-- What has been read of the arguments. The options behind the verb are kept apart. -/
structure Reading where
  verb : Option Verb := none
  before : Options := {}
  behind : Options := {}
  format : Option Format := none
  file : Option String := none
  onlyFiles : Bool := false

namespace Reading

def options (reading : Reading) : Options :=
  if reading.verb.isSome then reading.behind else reading.before

def setOptions (reading : Reading) (options : Options) : Reading :=
  if reading.verb.isSome then { reading with behind := options }
  else { reading with before := options }

def takeFlag (reading : Reading) : Option Reading :=
  if reading.options.verbose then none
  else some (reading.setOptions { reading.options with verbose := true })

/-- Takes an option with its value. Only directories may be given more than once. -/
def takeOption (reading : Reading) (name value : String) : Option Reading :=
  if name = "config" then
    if reading.options.config.isSome ∨ value = "" then none
    else some (reading.setOptions { reading.options with config := some value })
  else if name = "classpath" then
    if value = "" then none
    else
      some (reading.setOptions
        { reading.options with classpath := reading.options.classpath ++ [value] })
  else if name = "format" ∧ reading.verb = some .print ∧ reading.format.isNone then
    (Format.ofName? value).map fun format => { reading with format := some format }
  else none

/-- Takes a word that is no option: the verb first, and then the file. -/
def takeWord (reading : Reading) (word : String) : Option Reading :=
  match reading.verb with
  | none => (Verb.ofName? word).map fun verb => { reading with verb := some verb }
  | some .listNames => none
  | some _ => if reading.file.isSome then none else some { reading with file := some word }

end Reading

/-- A step in reading the arguments: the version is asked for, or reading goes on, perhaps with
the value of an option. -/
inductive Step where
  | version
  | next (reading : Reading)
  | valueOf (name : String) (reading : Reading)

/-- Takes single letters behind a hyphen. What follows the letter of an option is its value. -/
def takeLetters (reading : Reading) : List Char → Option Step
  | [] => some (.next reading)
  | 'v' :: letters => reading.takeFlag.bind fun reading => takeLetters reading letters
  | 'V' :: _ => if reading.verb.isNone then some .version else none
  | 'f' :: letters =>
      match letters with
      | [] => some (.valueOf "format" reading)
      | '=' :: value => (reading.takeOption "format" (String.ofList value)).map .next
      | value => (reading.takeOption "format" (String.ofList value)).map .next
  | _ => none

/-- Takes a long option, without its hyphens. -/
def takeLong (reading : Reading) (option : List Char) : Option Step :=
  let name := String.ofList (option.takeWhile (· ≠ '='))
  match option.dropWhile (· ≠ '=') with
  | [] =>
      if name = "verbose" then reading.takeFlag.map .next
      else if name = "version" ∧ reading.verb.isNone then some .version
      else some (.valueOf name reading)
  | _ :: value => (reading.takeOption name (String.ofList value)).map .next

def takeArgument (reading : Reading) (argument : String) : Option Step :=
  if reading.onlyFiles then (reading.takeWord argument).map .next
  else
    match argument.toList with
    | ['-', '-'] => some (.next { reading with onlyFiles := true })
    | '-' :: '-' :: option => takeLong reading option
    | '-' :: c :: letters => takeLetters reading (c :: letters)
    | _ => (reading.takeWord argument).map .next

/-- Whether a word may be the value of an option that stands apart from it. -/
def isValue (word : String) : Bool :=
  word = "-" || word.toList.head? ≠ some '-'

/-- Options behind the verb go before those in front of it. -/
def Reading.request (reading : Reading) (setting : String → Option String) : Request :=
  let configuration :=
    (reading.behind.config.or reading.before.config).or (setting "QAIL_CHANGELOG_CONFIG")
  let options : Options :=
    { config := configuration
      classpath :=
        if reading.behind.classpath = [] then reading.before.classpath
        else reading.behind.classpath
      verbose := reading.before.verbose || reading.behind.verbose }
  if configuration = some "" then .malformed
  else
    match reading.verb, reading.file with
    | some .check, some file => .act options (.check file)
    | some .print, some file => .act options (.print file (reading.format.getD .outline))
    | some .listNames, _ => .act options .listNames
    | _, _ => .malformed

def readArguments (setting : String → Option String) : Reading → List String → Request
  | reading, [] => reading.request setting
  | reading, argument :: arguments =>
      match takeArgument reading argument with
      | none => .malformed
      | some .version => .version
      | some (.next reading) => readArguments setting reading arguments
      | some (.valueOf name reading) =>
          match arguments with
          | [] => .malformed
          | value :: arguments =>
              if isValue value then
                match reading.takeOption name value with
                | some reading => readArguments setting reading arguments
                | none => .malformed
              else .malformed

/-! ## Configuration -/

/-- The variables on which a run depends. -/
def settingNames : List String :=
  ["QAIL_CHANGELOG_CONFIG", "XDG_CONFIG_HOME", "HOME"]

/-- The file that is looked for in the working directory. -/
def configurationFile : String :=
  "qail-changelog.toml"

/-- Where else a configuration may be: in the directory that the user has for them. -/
def userConfiguration? (setting : String → Option String) : Option String :=
  let isAbsolute (path : String) := path.toList.head? = some '/'
  let directory :=
    ((setting "XDG_CONFIG_HOME").filter isAbsolute).or
      (((setting "HOME").filter (· ≠ "")).map fun home => DiskStore.join home ".config")
  directory.map fun directory =>
    DiskStore.join (DiskStore.join directory "qail") "changelog.toml"

/-- A cause of failure, or an unexplored place on which the result depends. -/
abbrev Attempt (α : Type) := ExceptT BuildError Disk.Answer α

/-- A result of the build, in which unexplored places are no causes of failure. -/
def attempt {α : Type} : Except BuildError α → Attempt α
  | .ok value => pure value
  | .error (.resource _ (.unexplored place)) => .mk (.error place)
  | .error error => throw error

/-- Reads the configuration at a path. -/
def loadConfiguration (surroundings : Surroundings) (path : String) : Attempt Configuration := do
  let unreadable (reason : String) : Attempt Configuration :=
    throw (.configuration (.unreadable path reason))
  match ← ExceptT.lift (surroundings.disk.locate surroundings.workingDirectory path) with
  | .leads _ (.file (some text)) => attempt (Configuration.ofText text)
  | .leads _ (.file none) => unreadable "stream did not contain valid UTF-8"
  | .leads _ _ => unreadable "Is a directory (os error 21)"
  | .missing => unreadable "No such file or directory (os error 2)"
  | .blocked => unreadable "Not a directory (os error 20)"
  | .tooLong => unreadable "File name too long (os error 36)"

/-- Reads the first of some configurations that is there. -/
def discover (surroundings : Surroundings) : List String → Attempt Configuration
  | [] => pure {}
  | path :: paths => do
      match ← ExceptT.lift (surroundings.disk.locate surroundings.workingDirectory path) with
      | .leads _ (.file _) => loadConfiguration surroundings path
      | _ => discover surroundings paths

def configuration (surroundings : Surroundings) (options : Options) : Attempt Configuration :=
  match options.config with
  | some path => loadConfiguration surroundings path
  | none =>
      discover surroundings
        (configurationFile :: (userConfiguration? surroundings.setting).toList)

/-! ## Runs -/

def host (surroundings : Surroundings) (options : Options) (configuration : Configuration) : Host :=
  let store : DiskStore :=
    { disk := surroundings.disk
      workingDirectory := surroundings.workingDirectory
      root := DiskStore.absolutePath surroundings.workingDirectory
      virtualRoots := options.classpath }
  { configuration, catalog := .builtin, isPattern := Pattern.isWellFormed, store := store.toStore }

/-- The lines that a run prints, or the lines that say why it fails. -/
def act (surroundings : Surroundings) (options : Options) (action : Action) :
    Disk.Answer (Except String (List String)) := do
  match ← (configuration surroundings options).run with
  | .error error => return .error error.message
  | .ok configuration =>
      let host := host surroundings options configuration
      let built (file : String) (report : Changelog → List String) :
          Disk.Answer (Except String (List String)) := do
        match ← (attempt (Changelog.build host file none [])).run with
        | .ok log => return .ok (report log)
        | .error error => return .error s!"failed to build {file}: {error.message}"
      match action with
      | .check file => built file Changelog.summary
      | .print file .outline => built file Changelog.outline
      | .print file .document => built file fun log => [log.document.render]
      | .listNames => return .ok host.catalog.outline

def versionLine : String :=
  "qail-changelog 0.3.0"

def usageLine : String :=
  "Usage: qail-changelog [OPTIONS] <COMMAND>"

/-- Runs the program. -/
def run (surroundings : Surroundings) (arguments : List String) : Disk.Answer Outcome := do
  match readArguments surroundings.setting {} arguments with
  | .version => return { output := [versionLine] }
  | .malformed => return { exitCode := 2, errors := [usageLine] }
  | .act options action =>
      match ← act surroundings options action with
      | .ok lines => return { output := lines }
      | .error message => return { exitCode := 1, errors := ["Error: " ++ message] }

end Migration.Command
