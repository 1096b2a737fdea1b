import DesignTokens.CommandLine.Invocation
import DesignTokens.Console
import DesignTokens.Settings.Loading
import DesignTokens.Workspace.Following

/-!
# Sessions

A session is a workspace for one project: the settings are loaded, the sources that they resolve to
are attached and loaded, and the project is searched for more where the settings ask for it.
Opening one may fail; what was noted until then is kept.
-/

namespace DesignTokens

open CommandLine

/-- The workspace of one project. -/
structure Session where
  /-- The directory of the project. -/
  root : Path
  /-- The sources and their records. -/
  workspace : Workspace

namespace Session

/-- The name of the settings file in a project. -/
def settingsName : Text :=
  "tokenlens.yaml".toList

/-- The directory of the project as it is named. -/
def namedRoot (i : Invocation) : Path :=
  Path.ofString (i.root.getD "")

/-- The directory of the project. -/
def rootOf (f : FileTree) (i : Invocation) : Path :=
  (namedRoot i).resolve f.workingDirectory

/-- The settings file that is named, if one is. -/
def namedSettings? (f : FileTree) (i : Invocation) : Option Path :=
  match i.config with
  | none | some "" => none
  | some s => some ((Path.ofString s).resolve f.workingDirectory)

/-- The settings file. -/
def settingsPath (f : FileTree) (i : Invocation) : Path :=
  (namedSettings? f i).getD ((rootOf f i).child settingsName)

/-- What is said where a project without a directory is asked for. -/
def noRootMessage : String :=
  "expected str, bytes or os.PathLike object, not list"

/-- What keeps the project or the settings file from being looked for. -/
def obstacle? (f : FileTree) (i : Invocation) : Option String :=
  let named (p : Path) : Except PathFault Unit := discard (p.resolve? f.workingDirectory)
  let found : Except PathFault Unit := do
    named (namedRoot i)
    named (Path.ofString (i.config.getD ""))
  match i.root, found with
  | none, _ => some noRootMessage
  | _, .error why => some why.message
  | _, .ok () => none

/-- Load the settings; a file that is named must be there. -/
def loadSettings (f : FileTree) (i : Invocation) : Except String Settings := do
  let load (p : Path) := (Settings.load f (some p)).mapError SettingsError.message
  match obstacle? f i, namedSettings? f i with
  | some message, _ => throw message
  | none, none => load (settingsPath f i)
  | none, some p =>
      if ← (f.exists? p).mapError PathFault.message then load p
      else throw ("Settings file not found: " ++ p.toString)

/-- The journal entry for settings that were loaded from a file. -/
def settingsEntry (p : Path) (s : Settings) : LogEntry :=
  ⟨.debug, .settings,
    "Loaded " ++ toString s.sources.length ++ " source descriptors from " ++ p.toString⟩

/-- The workspace with the settings noted, if they were loaded from a file. -/
def noteSettings (p : Path) (s : Settings) (w : Workspace) : Workspace :=
  match w.files.exists? p with
  | .ok true => w.note (settingsEntry p s)
  | _ => w

/-- The discovery that settings ask for below a root. -/
def discoveryOf (root : Path) (s : Settings) : Discovery :=
  Discovery.new root (s.patterns.map String.toList) Discovery.usualExclude Discovery.usualMaxFiles
    discoveryPriority

/-- Warnings about the sources that could not be loaded. -/
def warnings (rs : List Workspace.LoadResult) : List ConsoleLine :=
  rs.filterMap fun r => r.error?.map fun e => .warning (r.id ++ ": " ++ e)

/-- Search the project, if the settings ask for it, and follow its files if the session watches. -/
def search (root : Path) (s : Settings) (watching : Bool) (w : Workspace) :
    Except Glob.Error Unit × Workspace :=
  if !s.autoScan then (.ok (), w)
  else
    let w := w.addDiscovery (discoveryOf root s)
    let (found, w) := if watching then w.follow 0 else w.scan 0
    (found.map fun _ => (), w)

/-- How opening a session ended. -/
structure Opening where
  /-- What was said. -/
  lines : List ConsoleLine
  /-- The session as far as it was opened. -/
  session : Session
  /-- What went wrong, if anything did. -/
  problem : Option String

/-- Open a session. -/
def openWith (files : FileTree) (i : Invocation) (watching : Bool) : Opening :=
  let root := rootOf files i
  let path := settingsPath files i
  let w := Workspace.new files .bundled watching
  match loadSettings files i with
  | .error e => ⟨[], ⟨root, w⟩, some e⟩
  | .ok s =>
      match (noteSettings path s w).populate (s.resolvedSources (some path.parent)) with
      | (.error why, w) => ⟨[], ⟨root, w⟩, some why.message⟩
      | (.ok rs, w) =>
          match search root s watching w with
          | (.ok (), w) => ⟨warnings rs, ⟨root, w⟩, none⟩
          | (.error e, w) => ⟨warnings rs, ⟨root, w⟩, some e.message⟩

/-- The registry. -/
def registry (s : Session) : Registry :=
  s.workspace.registry

/-- Close a session: nothing is observed any more. -/
def close (s : Session) : Session :=
  let w := s.workspace
  let w := if w.discoveries.isEmpty then w else w.disposeDiscovery 0
  { s with workspace := w.dispose }

end Session

end DesignTokens
