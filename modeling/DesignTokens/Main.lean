import DesignTokens.Session.Run

/-!
# The program

The program reads the files of a project, runs on them, and writes what the run has to say.  While
it watches, it looks at the files again and again and turns what has changed into events.
-/

namespace DesignTokens

open CommandLine

/-! ### Reading files -/

/-- The text of a place. -/
def placeText (place : Place) : String :=
  (Path.mk .slash place).toString

/-- Read one file into a tree, if it can be read. -/
def readFileInto (f : FileTree) (place : Place) : IO FileTree := do
  try
    let content ← IO.FS.readBinFile ((← IO.currentDir) / placeText place)
    return f.write place content.toList
  catch _ => return f

/-- Read a directory with everything below it into a tree, except for the directories that a
discovery passes over. -/
partial def readTreeInto (f : FileTree) (place : Place) : IO FileTree := do
  let directory := (← IO.currentDir) / placeText place
  if !(← directory.isDir) then return f
  let mut f := f.makeDirectory place
  for entry in ← directory.readDir do
    let name := entry.fileName.toList
    let below := place ++ [name]
    match (← entry.path.symlinkMetadata).type with
    | .dir =>
        if !Discovery.usualExclude.contains name then f ← readTreeInto f below
    | _ => if !(← entry.path.isDir) then f ← readFileInto f below
  return f

/-- The files that a command names. -/
def namedFiles : Option Command → List String
  | some (.scan files _) => files
  | _ => []

/-- The files that an invocation is about: those of the project, those that it names, and those
that the settings name. -/
def readFiles (i : Invocation) : IO FileTree := do
  let start := FileTree.start (Path.ofString (← IO.currentDir).toString).parts
  let mut f ← readTreeInto start (Session.rootOf start i).parts
  f ← readFileInto f (Session.settingsPath start i).parts
  for file in namedFiles i.command do
    f ← readFileInto f (f.placeOf (Path.ofString file))
  match Session.loadSettings f i with
  | .error _ => return f
  | .ok s =>
      for d in s.resolvedSources (some (Session.settingsPath f i).parent) do
        for file in d.filePath do
          f ← readFileInto f (f.placeOf (Path.ofString file))
      return f

/-! ### Watching -/

/-- The events between two trees. -/
def eventsBetween (old new : FileTree) : List FileEvent :=
  let event (kind : EventKind) (place : Place) (e : FileEntry) : FileEvent :=
    ⟨kind, ⟨.slash, place⟩, none, e = .directory⟩
  let arrived := new.entries.entries.filterMap fun (place, e) =>
    match old.entries.get? place with
    | none => some (event .created place e)
    | some e' => if e = e' then none else some (event .modified place e)
  let departed := old.entries.entries.filterMap fun (place, e) =>
    if new.entries.contains place then none else some (event .deleted place e)
  arrived ++ departed

/-- Look at the files again and again, and say what changes. -/
partial def watchForever (color : Bool) (i : Invocation) (w : Workspace) : IO Unit := do
  IO.sleep 300
  let files ← readFiles i
  let events := eventsBetween w.files files
  let w := (events.foldl (fun (w : Workspace) e => (w.deliver e).2)
    { w with files, journal := [], notices := [] }).settle
  IO.print (ConsoleLine.printed color (w.notices.map Session.noticeLine))
  IO.eprint (Session.journalText i.verbose w)
  (← IO.getStdout).flush
  watchForever color i w

/-- Open a session, say what there is, and go on to watch. -/
def watch (color : Bool) (files : FileTree) (i : Invocation) : IO UInt32 := do
  let opening := Session.openWith files i true
  let say (lines : List ConsoleLine) : IO Unit := do
    IO.print (ConsoleLine.printed color (opening.lines ++ lines))
    IO.eprint (Session.journalText i.verbose opening.session.workspace)
    (← IO.getStdout).flush
  match opening.problem with
  | some e =>
      say [.error e]
      return 1
  | none =>
      say opening.session.watchLines
      watchForever color i opening.session.workspace.listen
      return 0

/-- Run the program on arguments. -/
def start (arguments : List String) : IO UInt32 := do
  let color ← (← IO.getStdout).isTty
  let words := arguments.map String.toList
  let i := (Invocation.read words).toOption.getD .idle
  let files ← if i.command.isSome then readFiles i else pure (.start [])
  match i.command with
  | some .watch => watch (color && !i.plain) files i
  | _ =>
      let outcome := Session.run files color words id
      IO.print outcome.output
      IO.eprint outcome.diagnostics
      return UInt32.ofNat outcome.code

end DesignTokens

/-- The program's entry. -/
def main (arguments : List String) : IO UInt32 :=
  DesignTokens.start arguments
