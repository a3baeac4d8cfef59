import Mathlib
import Migration.Disk.Store
import Migration.Proofs.Build.Contents
import Migration.Proofs.Build.Reading
import Migration.Proofs.Build.Walk
import Migration.Proofs.Declaration.Call

/-!
# Builds of a part of the root script

A build reads its scripts from front to back and never goes back.  The main statement,
`build_of_front`, says that a root script which ends earlier gives the changesets, properties and
warnings that come first in what the whole script gives.  A script can also be read on the way, as a
file of properties or as a file to include, and there it shows where the script ends; the text of the
root script may not be read again in this way.
-/

namespace Migration

/-- Whether a script is another one as far as some place: between two root elements, or between two
items of the block of one. -/
inductive Script.IsFront : Script → Script → Prop
  | roots (front back : List Element) : IsFront ⟨front⟩ ⟨front ++ back⟩
  | items (front back : List Element) (e : Element) (xs ys : List (Item Element)) :
      IsFront ⟨front ++ [{ e with block := some xs }]⟩
        ⟨front ++ { e with block := some (xs ++ ys) } :: back⟩

/-- Whether a text is that of a script which ends earlier than the script of another text. -/
def Script.TextIsFront (front whole : String) : Prop :=
  ∃ frontScript wholeScript, Script.parse front = .ok frontScript ∧
    Script.parse whole = .ok wholeScript ∧ frontScript.IsFront wholeScript

namespace Changelog

/-! ## What a build keeps -/

/-- Whether a build has at some moment all that it has at another one, and perhaps more behind. -/
structure Keeps (log : Changelog) (session : Session) (after : Changelog) (later : Session) :
    Prop where
  changesets : log.changesets <+: after.changesets
  entries : session.properties.entries <+: later.properties.entries
  warnings : session.warnings <+: later.warnings

variable {host : Host} {depth line : Nat} {log final : Changelog} {session last : Session}

theorem Keeps.trans {after : Changelog} {later : Session}
    (front : Keeps log session after later) (back : Keeps after later final last) :
    Keeps log session final last :=
  ⟨front.changesets.trans back.changesets, front.entries.trans back.entries,
    front.warnings.trans back.warnings⟩

/-- The rest of a changelog keeps all that is there before it. -/
theorem Runs.keeps {tasks : List Task}
    (run : Runs host (.rest log tasks) session (.ok final) last) :
    Keeps log session final last := by
  obtain ⟨walk, walks, told⟩ := hasWalk_of_runs run rfl
  exact ⟨⟨_, (changesets_of_walks walks).symm⟩, ⟨_, (entries_of_walks walks).symm⟩,
    ⟨_, told.symm⟩⟩

theorem Done.keeps {lost : BuildError → Prop} {tasks : List Task}
    (done : Done host lost log tasks session (.ok final, last)) : Keeps log session final last :=
  (done.runs [] (.ok final) last .finished).keeps

theorem keeps_takeItems {items : List (Item Element)}
    (taken : (takeItems host (load host depth) line log items).outcome session =
      .ok (final, last)) : Keeps log session final last := by
  have done := done_takeItems (faithful_within host depth session.openFiles) line items log rfl
  rw [Build.outcome_eq_ok.mp taken] at done
  exact done.keeps

theorem keeps_takeRoots {roots : List Element}
    (taken : (takeRoots host (load host depth) log roots).outcome session = .ok (final, last)) :
    Keeps log session final last := by
  have done := done_takeRoots (faithful_within host depth session.openFiles) roots log rfl
  rw [Build.outcome_eq_ok.mp taken] at done
  exact done.keeps

/-! ## Parts of a script one after the other -/

theorem takeItems_append (host : Host) (load : String → Build Changelog) (line : Nat)
    (xs ys : List (Item Element)) (log : Changelog) :
    takeItems host load line log (xs ++ ys) =
      takeItems host load line log xs >>= fun log => takeItems host load line log ys := by
  induction xs generalizing log with
  | nil => rfl
  | cons item xs ih =>
      cases item with
      | text s => rfl
      | element e =>
          rw [List.cons_append, takeItems, takeItems, bind_assoc]
          simp only [ih]

theorem takeRoots_append (host : Host) (load : String → Build Changelog)
    (front back : List Element) (log : Changelog) :
    takeRoots host load log (front ++ back) =
      takeRoots host load log front >>= fun log => takeRoots host load log back := by
  induction front generalizing log with
  | nil => rfl
  | cons e front ih =>
      rw [List.cons_append, takeRoots, takeRoots]
      split
      · simp only [bind_assoc, ih]
      · rfl

theorem namedArguments_withBlock (site : Site) (e : Element)
    (block : Option (List (Item Element))) :
    site.namedArguments { e with block } = site.namedArguments e := by
  rw [Site.namedArguments, Site.namedArguments, site.call_withBlock]

/-- A root element is taken by its arguments, by the items of its block and then by the others. -/
theorem takeRoots_cons_eq_ok {load : String → Build Changelog} {e : Element}
    {roots : List Element} :
    (takeRoots host load log (e :: roots)).outcome session = .ok (final, last) ↔
      e.name = "databaseChangeLog" ∧ ∃ arguments start middle mid,
        (log.siteIn session).namedArguments e = .ok arguments ∧
        log.takeArguments arguments = .ok start ∧
        (takeItems host load e.line start e.items).outcome session = .ok (middle, mid) ∧
        (takeRoots host load middle roots).outcome mid = .ok (final, last) := by
  rw [takeRoots]
  split
  · rename_i named
    rw [Build.outcome_site_bind, Build.outcome_ofExcept_bind]
    constructor
    · intro taken
      obtain ⟨arguments, called, taken⟩ := bind_eq_ok.mp taken
      rw [Build.outcome_ofExcept_bind] at taken
      obtain ⟨start, accepted, taken⟩ := bind_eq_ok.mp taken
      rw [Build.outcome_bind] at taken
      obtain ⟨⟨middle, mid⟩, inside, rest⟩ := bind_eq_ok.mp taken
      exact ⟨named, arguments, start, middle, mid, called, accepted, inside, rest⟩
    · rintro ⟨-, arguments, start, middle, mid, called, accepted, inside, rest⟩
      refine bind_eq_ok.mpr ⟨arguments, called, ?_⟩
      rw [Build.outcome_ofExcept_bind]
      refine bind_eq_ok.mpr ⟨start, accepted, ?_⟩
      rw [Build.outcome_bind]
      exact bind_eq_ok.mpr ⟨_, inside, rest⟩
  · rename_i other
    simp [Build.outcome_ofExcept, other, Except.map]

/-- What has been built where a script ends is kept by the build of a script that goes on there. -/
theorem takeRoots_front {front whole : Script} (isFront : front.IsFront whole)
    (taken : (takeRoots host (load host depth) log whole.elements).outcome session =
      .ok (final, last)) :
    ∃ middle mid, (takeRoots host (load host depth) log front.elements).outcome session =
        .ok (middle, mid) ∧ Keeps middle mid final last := by
  cases isFront with
  | roots front back =>
      rw [takeRoots_append, Build.outcome_bind] at taken
      obtain ⟨⟨middle, mid⟩, first, rest⟩ := bind_eq_ok.mp taken
      exact ⟨middle, mid, first, keeps_takeRoots rest⟩
  | items front back e xs ys =>
      rw [takeRoots_append, Build.outcome_bind] at taken
      obtain ⟨⟨start, begun⟩, first, rest⟩ := bind_eq_ok.mp taken
      obtain ⟨named, arguments, given, after, later, called, accepted, inside, behind⟩ :=
        takeRoots_cons_eq_ok.mp rest
      rw [namedArguments_withBlock] at called
      rw [show Element.items { e with block := some (xs ++ ys) } = xs ++ ys from rfl,
        takeItems_append, Build.outcome_bind] at inside
      obtain ⟨⟨middle, mid⟩, inFront, further⟩ := bind_eq_ok.mp inside
      refine ⟨middle, mid, ?_, (keeps_takeItems further).trans (keeps_takeRoots behind)⟩
      rw [takeRoots_append, Build.outcome_bind]
      refine bind_eq_ok.mpr ⟨_, first, takeRoots_cons_eq_ok.mpr ⟨named, arguments, given, middle,
        mid, ?_, accepted, inFront, rfl⟩⟩
      rw [namedArguments_withBlock]
      exact called

/-! ## Whole builds -/

/-- A script is built if it is not open already, can be read and takes the arguments, and by its
root elements while it is open. -/
theorem buildScript_eq_ok {load : String → Build Changelog} {path : String}
    {source : Option String} {arguments : List (String × Value)} :
    (buildScript host load path source arguments).outcome session = .ok (final, last) ↔
      session.openFiles.any (Path.same · (Path.normalize path)) = false ∧
      ∃ script start inner,
        readScript host (Path.normalize path) source = .ok script ∧
        takeArguments { physicalPath := Path.normalize path } arguments = .ok start ∧
        (takeRoots host load start script.elements).outcome
          (session.opened (Path.normalize path)) = .ok (final, inner) ∧
        last = inner.closed := by
  rw [buildScript, Build.outcome_refuseOpen_bind]
  split
  · rename_i isOpen
    simp [isOpen]
  · rename_i fresh
    rw [Build.outcome_ofExcept_bind]
    constructor
    · intro built
      obtain ⟨script, read, built⟩ := bind_eq_ok.mp built
      rw [Build.outcome_opening, Build.outcome_ofExcept_bind] at built
      obtain ⟨⟨_, inner⟩, inside, same⟩ := map_eq_ok.mp built
      cases same
      obtain ⟨start, taken, inside⟩ := bind_eq_ok.mp inside
      exact ⟨by simpa using fresh, script, start, inner, read, taken, inside, rfl⟩
    · rintro ⟨-, script, start, inner, read, taken, inside, rfl⟩
      refine bind_eq_ok.mpr ⟨script, read, ?_⟩
      rw [Build.outcome_opening, Build.outcome_ofExcept_bind]
      exact map_eq_ok.mpr ⟨(final, inner), bind_eq_ok.mpr ⟨start, taken, inside⟩, rfl⟩

/-- If a build succeeds, so does the build of a root script that ends earlier, from the same files.
Its changesets, properties and warnings are those that come first in the whole build. -/
theorem build_of_frontScript {path : String} {source other : Option String}
    {arguments : List (String × Value)} {whole front : Script}
    (read : readScript host (Path.normalize path) source = .ok whole)
    (built : build host path source arguments = .ok log)
    (readFront : readScript host (Path.normalize path) other = .ok front)
    (isFront : front.IsFront whole) :
    ∃ begun, build host path other arguments = .ok begun ∧
      begun.changesets <+: log.changesets ∧
      begun.properties.entries <+: log.properties.entries ∧
      begun.warnings <+: log.warnings := by
  rw [build_eq_map] at built ⊢
  obtain ⟨⟨final, last⟩, ran, rfl⟩ := map_eq_ok.mp built
  obtain ⟨fresh, script, start, inner, isRead, taken, inside, rfl⟩ := buildScript_eq_ok.mp ran
  cases isRead.symm.trans read
  obtain ⟨middle, mid, begun, keeps⟩ := takeRoots_front isFront inside
  refine ⟨finish mid.closed middle, map_eq_ok.mpr ⟨(middle, mid.closed), ?_, rfl⟩,
    keeps.changesets, keeps.entries, keeps.warnings⟩
  exact buildScript_eq_ok.mpr ⟨fresh, front, start, mid, readFront, taken, begun, rfl⟩

/-- A script that is read somewhere is read from its text in every host. -/
theorem exists_text_of_readScript {path : String} {source : Option String} {script : Script}
    (read : readScript host path source = .ok script) :
    ∃ text, ∀ other : Host, readScript other path (some text) = .ok script := by
  cases source with
  | some text => exact ⟨text, fun _ => read⟩
  | none =>
      obtain ⟨text, -, parsed⟩ := bind_eq_ok.mp read
      exact ⟨text, fun _ => parsed⟩

variable {store : Store}

/-- If a build from a store succeeds, so does the build from another one in which the root script
ends earlier.  Its changesets, properties and warnings are those that come first in the whole build.
What it reads once the root script has been entered has to be the same in both stores. -/
theorem build_of_front (bounded : host.store.IsBounded)
    (related : host.store.Relates (fun _ _ => True) store) {path : String}
    {source other : Option String} {arguments : List (String × Value)} {whole front : Script}
    (read : readScript { host with store } (Path.normalize path) source = .ok whole)
    (readFront : readScript host (Path.normalize path) other = .ok front)
    (isFront : front.IsFront whole)
    (reads : ∀ steps, ((Machine.start host path other arguments).run host (steps + 1)).ReadsSame
      host store)
    (built : build { host with store } path source arguments = .ok log) :
    ∃ begun, build host path other arguments = .ok begun ∧
      begun.changesets <+: log.changesets ∧
      begun.properties.entries <+: log.properties.entries ∧
      begun.warnings <+: log.warnings := by
  obtain ⟨text, isText⟩ := exists_text_of_readScript readFront
  obtain ⟨begun, builtText, begins⟩ := build_of_frontScript read built (isText _) isFront
  have same : build { host with store } path (some text) arguments =
      build host path other arguments :=
    build_eq_of_readsSame bounded related ((isText _).trans readFront.symm) reads
  exact ⟨begun, same.symm.trans builtText, begins⟩

theorem readScript_of_text {path text : String} {script : Script}
    (found : host.store.text path = .ok text) (parsed : Script.parse text = .ok script) :
    readScript host path none = .ok script := by
  rw [readScript, found]
  exact congrArg (Except.mapError (BuildError.malformed path)) parsed

/-- A script that declares a property again behind a changeset which has it, and its front. -/
def redeclaringText : String :=
  r"databaseChangeLog{property(file:'p')include 'a.qcl' property(name:'n',value:'2')}"

def redeclaringFront : String :=
  r"databaseChangeLog{property(file:'p')include 'a.qcl'}"

/-- The files with such a script at the root. -/
def redeclaringFiles (root : String) : List (String × String) := [
  ("main.qcl", root),
  ("a.qcl", r"databaseChangeLog{changeSet(author:'m',id:'${n}'){}}"),
  ("p", "n=1")]

def redeclaringHost (root : String) : Host :=
  .ofMemory {} .builtin (.ofList (redeclaringFiles root))

/-- What both scripts declare. -/
def redeclaringItems : List (Item Element) :=
  [.element ⟨"property", [⟨some "file", .str "p"⟩], none, 1⟩,
    .element ⟨"include", [⟨none, .str "a.qcl"⟩], none, 1⟩]

/-- What the whole script declares from there on. -/
def redeclaringRest : List (Item Element) :=
  [.element ⟨"property", [⟨some "name", .str "n"⟩, ⟨some "value", .str "2"⟩], none, 1⟩]

theorem readScript_redeclaringText :
    readScript (redeclaringHost redeclaringText) "main.qcl" none =
      .ok ⟨[⟨"databaseChangeLog", [], some (redeclaringItems ++ redeclaringRest), 1⟩]⟩ := by
  have parsed : Script.parse redeclaringText =
      .ok ⟨[⟨"databaseChangeLog", [], some (redeclaringItems ++ redeclaringRest), 1⟩]⟩ := by
    cbv
  exact readScript_of_text rfl parsed

theorem readScript_redeclaringFront :
    readScript (redeclaringHost redeclaringFront) "main.qcl" none =
      .ok ⟨[⟨"databaseChangeLog", [], some redeclaringItems, 1⟩]⟩ := by
  have parsed : Script.parse redeclaringFront =
      .ok ⟨[⟨"databaseChangeLog", [], some redeclaringItems, 1⟩]⟩ := by
    cbv
  exact readScript_of_text rfl parsed

theorem redeclaringFront_readsSame (steps : Nat) :
    ((Machine.start (redeclaringHost redeclaringFront) "main.qcl" none []).run
      (redeclaringHost redeclaringFront) (steps + 1)).ReadsSame (redeclaringHost redeclaringFront)
        (redeclaringHost redeclaringText).store :=
  @Machine.forall_run_of_holdsWithin _ _ _ 12 _ (by decide +kernel) steps

/-- The changeset of the included file keeps the value that the property had there. -/
theorem build_of_redeclaringFront : ∃ log begun,
    build (redeclaringHost redeclaringText) "main.qcl" none [] = .ok log ∧
    build (redeclaringHost redeclaringFront) "main.qcl" none [] = .ok begun ∧
    log.changesets.map (·.id) = ["1"] ∧
    begun.changesets <+: log.changesets ∧
    begun.properties.entries <+: log.properties.entries ∧
    begun.warnings <+: log.warnings := by
  have evaluated : ((build (redeclaringHost redeclaringText) "main.qcl" none []).toOption.map
      fun log => log.changesets.map (·.id)) = some ["1"] := by
    decide +kernel
  obtain ⟨log, built, ids⟩ := exists_ok_of_toOption evaluated
  have isFront : Script.IsFront ⟨[⟨"databaseChangeLog", [], some redeclaringItems, 1⟩]⟩
      ⟨[⟨"databaseChangeLog", [], some (redeclaringItems ++ redeclaringRest), 1⟩]⟩ :=
    .items [] [] ⟨"databaseChangeLog", [], none, 1⟩ redeclaringItems redeclaringRest
  have normal : Path.normalize "main.qcl" = "main.qcl" := by decide
  have related : List.Forall₂ (FilesRelate fun _ _ => True) (redeclaringFiles redeclaringFront)
      (redeclaringFiles redeclaringText) :=
    .cons ⟨rfl, trivial⟩ (.cons ⟨rfl, trivial⟩ (.cons ⟨rfl, trivial⟩ .nil))
  obtain ⟨begun, builtFront, changesets, entries, warnings⟩ :=
    @build_of_front (redeclaringHost redeclaringFront) _ _ (MemoryStore.isBounded _)
      (MemoryStore.relates_ofList related) "main.qcl" none none [] _ _
      (normal.symm ▸ readScript_redeclaringText) (normal.symm ▸ readScript_redeclaringFront) isFront
      redeclaringFront_readsSame built
  exact ⟨log, begun, built, builtFront, ids, changesets, entries, warnings⟩

/-- A script that reads its own lines as a file of properties, and its front. -/
def ownText : String := r"databaseChangeLog{
property(file:'main.qcl')
changeSet(author:'m',id:'1'){}
}"

def ownFront : String := r"databaseChangeLog{
property(file:'main.qcl')
}"

def ownItems : List (Item Element) :=
  [.element ⟨"property", [⟨some "file", .str "main.qcl"⟩], none, 2⟩]

def ownRest : List (Item Element) :=
  [.element ⟨"changeSet", [⟨some "author", .str "m"⟩, ⟨some "id", .str "1"⟩], some [], 3⟩]

theorem ownFront_isFront : Script.TextIsFront ownFront ownText := by
  have parsed : Script.parse ownText =
      .ok ⟨[⟨"databaseChangeLog", [], some (ownItems ++ ownRest), 1⟩]⟩ := by cbv
  have parsedFront : Script.parse ownFront =
      .ok ⟨[⟨"databaseChangeLog", [], some ownItems, 1⟩]⟩ := by cbv
  exact ⟨_, _, parsedFront, parsed,
    .items [] [] ⟨"databaseChangeLog", [], none, 1⟩ ownItems ownRest⟩

/-- The end of a script shows in the properties that it reads from itself. -/
theorem entries_of_ownFront : ∃ log begun,
    build (.ofMemory {} .builtin (.ofList [("main.qcl", ownText)])) "main.qcl" none [] = .ok log ∧
    build (.ofMemory {} .builtin (.ofList [("main.qcl", ownFront)])) "main.qcl" none [] =
      .ok begun ∧
    ¬ begun.properties.entries <+: log.properties.entries := by
  have evaluated : ((build (.ofMemory {} .builtin (.ofList [("main.qcl", ownText)])) "main.qcl"
      none []).toOption.map fun log => log.properties.entries.map (·.name)) =
      some [r"databaseChangeLog{", "property(file", "changeSet(author", r"}"] := by
    decide +kernel
  have evaluatedFront : ((build (.ofMemory {} .builtin (.ofList [("main.qcl", ownFront)]))
      "main.qcl" none []).toOption.map fun log => log.properties.entries.map (·.name)) =
      some [r"databaseChangeLog{", "property(file", r"}"] := by
    decide +kernel
  obtain ⟨log, built, names⟩ := exists_ok_of_toOption evaluated
  obtain ⟨begun, builtFront, namesFront⟩ := exists_ok_of_toOption evaluatedFront
  refine ⟨log, begun, built, builtFront, fun entries => ?_⟩
  have begins := entries.map (·.name)
  rw [names, namesFront] at begins
  exact absurd begins (by decide)

/-- A disk on which a script has one name below each of two virtual roots. -/
def twiceNamed (text : String) : DiskStore where
  disk := .directory [
    ("c", .directory [("s", .directory [("main.qcl", .file (some text))])]),
    ("main.qcl", .file (some r"databaseChangeLog{}"))]
  workingDirectory := []
  root := "/"
  virtualRoots := ["/c", "/c/s"]

/-- A script that includes itself by the other name, and its front. -/
def mirroredText : String := r"databaseChangeLog{
include(file:'../main.qcl',relativeToChangelogFile:true)
changeSet(author:'m',id:'2'){}
changeSet(author:'m',id:'1'){}
}"

def mirroredFront : String := r"databaseChangeLog{
include(file:'../main.qcl',relativeToChangelogFile:true)
changeSet(author:'m',id:'2'){}
}"

def mirroredItems : List (Item Element) := [
  .element ⟨"include", [⟨some "file", .str "../main.qcl"⟩,
    ⟨some "relativeToChangelogFile", .bool true⟩], none, 2⟩,
  .element ⟨"changeSet", [⟨some "author", .str "m"⟩, ⟨some "id", .str "2"⟩], some [], 3⟩]

def mirroredRest : List (Item Element) :=
  [.element ⟨"changeSet", [⟨some "author", .str "m"⟩, ⟨some "id", .str "1"⟩], some [], 4⟩]

set_option maxRecDepth 2000 in
theorem mirroredFront_isFront : Script.TextIsFront mirroredFront mirroredText := by
  have parsed : Script.parse mirroredText =
      .ok ⟨[⟨"databaseChangeLog", [], some (mirroredItems ++ mirroredRest), 1⟩]⟩ := by cbv
  have parsedFront : Script.parse mirroredFront =
      .ok ⟨[⟨"databaseChangeLog", [], some mirroredItems, 1⟩]⟩ := by cbv
  exact ⟨_, _, parsedFront, parsed,
    .items [] [] ⟨"databaseChangeLog", [], none, 1⟩ mirroredItems mirroredRest⟩

/-- The end of a script shows in the changesets that it includes from itself. -/
theorem changesets_of_mirroredFront : ∃ log begun,
    build { store := (twiceNamed mirroredText).toStore } "classpath:s/main.qcl" none [] =
      .ok log ∧
    build { store := (twiceNamed mirroredFront).toStore } "classpath:s/main.qcl" none [] =
      .ok begun ∧
    ¬ begun.changesets <+: log.changesets := by
  have evaluated : ((build { store := (twiceNamed mirroredText).toStore } "classpath:s/main.qcl"
      none []).toOption.map fun log => log.changesets.map (·.id)) = some ["2", "1", "2", "1"] := by
    decide +kernel
  have evaluatedFront : ((build { store := (twiceNamed mirroredFront).toStore }
      "classpath:s/main.qcl" none []).toOption.map fun log => log.changesets.map (·.id)) =
      some ["2", "2"] := by
    decide +kernel
  obtain ⟨log, built, ids⟩ := exists_ok_of_toOption evaluated
  obtain ⟨begun, builtFront, idsFront⟩ := exists_ok_of_toOption evaluatedFront
  refine ⟨log, begun, built, builtFront, fun changesets => ?_⟩
  have begins := changesets.map (·.id)
  rw [ids, idsFront] at begins
  exact absurd begins (by decide)

/-- A script that reads itself, as a file of properties or as a file to include, can give something
else where it ends earlier. -/
theorem not_build_of_front_selfReading :
    (Script.TextIsFront ownFront ownText ∧ ∃ log begun,
      build (.ofMemory {} .builtin (.ofList [("main.qcl", ownText)])) "main.qcl" none [] =
        .ok log ∧
      build (.ofMemory {} .builtin (.ofList [("main.qcl", ownFront)])) "main.qcl" none [] =
        .ok begun ∧
      ¬ begun.properties.entries <+: log.properties.entries) ∧
    Script.TextIsFront mirroredFront mirroredText ∧ ∃ log begun,
      build { store := (twiceNamed mirroredText).toStore } "classpath:s/main.qcl" none [] =
        .ok log ∧
      build { store := (twiceNamed mirroredFront).toStore } "classpath:s/main.qcl" none [] =
        .ok begun ∧
      ¬ begun.changesets <+: log.changesets :=
  ⟨⟨ownFront_isFront, entries_of_ownFront⟩, mirroredFront_isFront, changesets_of_mirroredFront⟩

end Changelog

end Migration
