import DesignTokens.File.Path
import DesignTokens.Token.Record

/-!
# Source descriptors and settings

A descriptor says where tokens come from and how they are ranked.  Settings declare descriptors
and how a project is searched for more.  Resolving settings puts the bundled dataset first, ranks
the declared sources that have no rank by their position, and places relative paths below a
directory.
-/

namespace DesignTokens

/-- The rank of the bundled dataset. -/
def builtinPriority : Int :=
  100

/-- The rank of sources that are found by searching a project. -/
def discoveryPriority : Int :=
  50

/-- The rank of the first declared source; the others follow. -/
def declaredPriority : Int :=
  10

/-- Where tokens come from, and how. -/
structure SourceDescriptor where
  /-- The kind of source. -/
  kind : SourceKind
  /-- Is the source in use? -/
  enabled : Bool
  /-- The rank in conflicts; lower ranks win. -/
  priority : Option Int
  /-- The file behind the source. -/
  filePath : Option String
  /-- Is the source loaded again when its file changes? -/
  watch : Bool
  deriving Repr, DecidableEq

namespace SourceDescriptor

/-- The bundled dataset with a rank. -/
def builtin (priority : Int) : SourceDescriptor :=
  ⟨.builtin, true, some priority, none, false⟩

/-- The identity of the source: there is one bundled dataset, and one source for each kind and
spelling of a path. -/
def sourceId (d : SourceDescriptor) : String :=
  match d.kind with
  | .builtin => "builtin"
  | kind => kind.label ++ ":" ++ d.filePath.getD "None"

/-- The path of the file behind the source. -/
def path? (d : SourceDescriptor) : Option Path :=
  d.filePath.map Path.ofString

end SourceDescriptor

/-- The patterns for searching a project when settings give none. -/
def defaultPatterns : List String :=
  ["**/theme.config.\x7bjs,ts\x7d", "**/tokens.\x7bcss,less,scss\x7d",
    "**/*.theme.\x7bcss,less,scss\x7d"]

/-- The settings of a project. -/
structure Settings where
  /-- The declared sources. -/
  sources : List SourceDescriptor
  /-- Is the project searched for sources? -/
  autoScan : Bool
  /-- The patterns of the files to look for. -/
  patterns : List String
  /-- The rank of the bundled dataset. -/
  builtinPriority : Int
  deriving Repr, DecidableEq

namespace Settings

/-- The settings of a project that says nothing. -/
def default : Settings :=
  ⟨[], true, defaultPatterns, DesignTokens.builtinPriority⟩

/-- A declared source at a position, ranked and placed below a directory. -/
def place (directory : Option Path) (position : Nat) (d : SourceDescriptor) : SourceDescriptor :=
  let filePath :=
    match d.filePath, directory with
    | some s, some dir =>
        let p := Path.ofString s
        if s.isEmpty || p.isAbsolute then some s else some (dir.join p).toString
    | path, _ => path
  { d with priority := some (d.priority.getD (declaredPriority + position)), filePath }

/-- The sources in use: the bundled dataset, then the declared sources.  A declared bundled
dataset is passed over, but counts as a position. -/
def resolvedSources (s : Settings) (directory : Option Path) : List SourceDescriptor :=
  SourceDescriptor.builtin s.builtinPriority
    :: s.sources.zipIdx.filterMap fun (d, position) =>
      if d.kind = .builtin then none else some (place directory position d)

end Settings

end DesignTokens
