import DesignTokens.Signal
import DesignTokens.Source.Basic
import DesignTokens.Watch.Hub
import DesignTokens.Workspace.Catalogue
import DesignTokens.Workspace.Discovery

/-!
# Workspaces

A workspace holds the attached sources of a project and the catalogue that their records are
merged into.  It tells its listeners when tokens or the set of sources have changed, keeps a
journal, and follows the files behind its sources.  Work that a timer or a file event asks for is
scheduled first, then pending, and then done.
-/

namespace DesignTokens

/-- An attached source. -/
structure Attachment where
  /-- The source. -/
  source : Source
  /-- The watch on its file. -/
  watch : Option Nat
  deriving Repr, DecidableEq

/-- Work that is done later. -/
inductive Task
  /-- Load a source again. -/
  | change (id : String)
  /-- Look at a file that came, for a discovery. -/
  | accept (discovery : Nat) (p : Path)
  /-- Remove the source of a file that went, for a discovery. -/
  | forget (discovery : Nat) (p : Path)
  deriving Repr, DecidableEq

/-- What a listener was told, with the numbers at that time. -/
inductive Notice
  /-- The tokens changed: how many names and how many records there are. -/
  | tokens (names records : Nat)
  /-- The set of sources changed: how many there are. -/
  | sources (count : Nat)
  deriving Repr, DecidableEq

/-- The sources of a project, what they contributed, and who wants to know. -/
structure Workspace where
  /-- The files. -/
  files : FileTree
  /-- Where the dataset is. -/
  place : DatasetPlace
  /-- Are the files of sources watched? -/
  watching : Bool
  /-- The records. -/
  catalogue : Catalogue
  /-- The attached sources, by identity. -/
  sources : OrderedMap String Attachment
  /-- Who is told that tokens changed. -/
  tokensChanged : Signal Unit
  /-- Who is told that the set of sources changed. -/
  sourcesChanged : Signal Unit
  /-- The watches; each is for the source with an identity. -/
  hub : Hub String
  /-- Work that was asked for. -/
  scheduled : List Task
  /-- Work that is about to begin. -/
  pending : List Task
  /-- The discoveries; the last one is the present one. -/
  discoveries : List Discovery
  /-- The journal, oldest entry first. -/
  journal : List LogEntry
  /-- What listeners were told, oldest first. -/
  notices : List Notice

namespace Workspace

/-- A workspace without sources. -/
def new (files : FileTree) (place : DatasetPlace) (watching : Bool) : Workspace :=
  { files, place, watching
    catalogue := .empty
    sources := .empty
    tokensChanged := .silent "tokens changed"
    sourcesChanged := .silent "source set changed"
    hub := .empty
    scheduled := []
    pending := []
    discoveries := []
    journal := []
    notices := [] }

/-- Add an entry to the journal. -/
def note (e : LogEntry) (w : Workspace) : Workspace :=
  { w with journal := w.journal ++ [e] }

/-- Add an entry about the sources to the journal. -/
def remark (w : Workspace) (level : Level) (message : String) : Workspace :=
  w.note ⟨level, .aggregation, message⟩

/-- The registry. -/
def registry (w : Workspace) : Registry :=
  w.catalogue.registry

/-- Connect a listener to both signals. -/
def listen (w : Workspace) : Workspace :=
  { w with
    tokensChanged := w.tokensChanged.connect ()
    sourcesChanged := w.sourcesChanged.connect () }

/-- A listener is told something. -/
def tell (n : Notice) (w : Workspace) : Reply × Workspace :=
  (.done, { w with notices := w.notices ++ [n] })

/-- Tell the listeners that tokens changed. -/
def fireTokens (w : Workspace) : Workspace :=
  Signal.fire tokensChanged
    (fun _ w => w.tell (.tokens w.registry.uniqueSize w.registry.size)) note w

/-- Tell the listeners that the set of sources changed. -/
def fireSources (w : Workspace) : Workspace :=
  Signal.fire sourcesChanged (fun _ w => w.tell (.sources w.sources.size)) note w

/-! ### Watches -/

/-- Watch the file of a source, if watching is on and the source asks for it.  The number of the
watch is given too. -/
def watch (w : Workspace) (s : Source) : Option Nat × Workspace :=
  match w.watching, s.watched? with
  | true, some p =>
      let n := w.hub.watches.length
      (some n, { w with hub := (w.hub.addWatch p s.id).start n }.note (Hub.startEntry p))
  | _, _ => (none, w)

/-- Give up a source: its watch is stopped. -/
def release (w : Workspace) (a : Attachment) : Workspace :=
  match a.watch, a.source.watched? with
  | some n, some p =>
      let w := if w.hub.isWatching n then w.note (Hub.stopEntry p) else w
      { w with hub := w.hub.stop n }
  | _, _ => w

/-! ### Loading -/

/-- The outcome of loading a source. -/
structure LoadResult where
  /-- The identity of the source. -/
  id : String
  /-- The kind of the source, if there is such a source. -/
  kind : Option SourceKind
  /-- The records, or the message of what went wrong. -/
  outcome : Except String (List TokenRecord)

namespace LoadResult

/-- Were records loaded? -/
def isOk (r : LoadResult) : Bool :=
  r.outcome matches .ok _

/-- The records that were loaded. -/
def records (r : LoadResult) : List TokenRecord :=
  match r.outcome with
  | .ok rs => rs
  | .error _ => []

/-- What went wrong. -/
def error? (r : LoadResult) : Option String :=
  match r.outcome with
  | .ok _ => none
  | .error e => some e

end LoadResult

/-- Load one source and merge its records. -/
def loadSource (w : Workspace) (id : String) : LoadResult × Workspace :=
  match w.sources.get? id with
  | none => (⟨id, none, .error "Source not found"⟩, w)
  | some a =>
      let kind := some a.source.descriptor.kind
      match a.source.load w.files with
      | .error e =>
          (⟨id, kind, .error e.message⟩,
            w.remark .error ("Load failed for " ++ id ++ ": " ++ e.message))
      | .ok rs =>
          let w := w.note (a.source.loadedEntry w.files rs.length)
          let w := { w with catalogue := w.catalogue.merge id rs }
          (⟨id, kind, .ok rs⟩,
            w.remark .info
              ("Loaded " ++ toString rs.length ++ " tokens from " ++ id ++ " in 0.0ms"))

/-- Load sources one after another. -/
def loadEach : List String → Workspace → List LoadResult × Workspace
  | [], w => ([], w)
  | id :: ids, w =>
      let (r, w) := w.loadSource id
      let (rs, w) := loadEach ids w
      (r :: rs, w)

/-- The identities of the attached sources that are enabled. -/
def enabledIds (w : Workspace) : List String :=
  (w.sources.entries.filter fun e => e.2.source.descriptor.enabled).map Prod.fst

/-- Load every enabled source; those that fail are counted in the journal. -/
def loadEnabled (w : Workspace) : List LoadResult × Workspace :=
  let (rs, w) := loadEach w.enabledIds w
  let failed := (rs.filter fun r => !r.isOk).map LoadResult.id
  if failed.isEmpty then (rs, w)
  else
    (rs, w.remark .warning
      (toString failed.length ++ " of " ++ toString rs.length ++ " sources failed to load: "
        ++ ", ".intercalate failed))

/-- Load every enabled source and tell the listeners. -/
def loadAll (w : Workspace) : List LoadResult × Workspace :=
  let (rs, w) := w.loadEnabled
  (rs, w.fireTokens)

/-- Forget all records. -/
def resetCatalogue (w : Workspace) : Workspace :=
  { w with catalogue := .empty }

/-- Forget all records, load every enabled source, and tell the listeners. -/
def reload (w : Workspace) : List LoadResult × Workspace :=
  (w.remark .info "Reloading all sources").resetCatalogue.loadAll

/-- The file of a source changed: load it again and tell the listeners, unless the source is
gone. -/
def sourceChanged (w : Workspace) (id : String) : Option LoadResult × Workspace :=
  if w.sources.contains id then
    let (r, w) := (w.remark .info ("Source changed: " ++ id)).loadSource id
    (some r, w.fireTokens)
  else (none, w)

/-! ### The set of sources -/

/-- The first stage of attaching: a source with the same identity must not be there. -/
def checkNew (w : Workspace) (d : SourceDescriptor) : Bool × Workspace :=
  if w.sources.contains d.sourceId then
    (false, w.remark .warning ("Source already exists: " ++ d.sourceId))
  else (true, w)

/-- The second stage of attaching: a valid source joins the set and is watched.  Its path may be
one that cannot be looked up. -/
def attachChecked (w : Workspace) (d : SourceDescriptor) : Except PathFault Bool × Workspace :=
  let s := Source.ofDescriptor w.place d
  match s.isValid w.files with
  | .error why => (.error why, w)
  | .ok true =>
      let (n, w) := w.watch s
      let w := { w with sources := w.sources.insert s.id ⟨s, n⟩ }
      (.ok true, w.remark .info ("Source added: " ++ s.id ++ " (" ++ s.description ++ ")"))
  | .ok false => (.ok false, w.remark .warning ("Source validation failed, skipping: " ++ s.id))

/-- Attach a source, if it is new and valid. -/
def attach (w : Workspace) (d : SourceDescriptor) : Except PathFault Bool × Workspace :=
  match w.checkNew d with
  | (false, w) => (.ok false, w)
  | (true, w) => w.attachChecked d

/-- Attach sources one after another, up to the first whose path cannot be looked up. -/
def attachEach : List SourceDescriptor → Workspace → Except PathFault Unit × Workspace
  | [], w => (.ok (), w)
  | d :: ds, w =>
      match w.attach d with
      | (.error why, w) => (.error why, w)
      | (.ok _, w) => attachEach ds w

/-- The last stage of adding a source: load it, and tell the listeners if that succeeds. -/
def loadAdded (w : Workspace) (id : String) : Workspace :=
  let (r, w) := w.loadSource id
  if r.isOk then w.fireTokens else w

/-- Add a source and load it. -/
def addSource (w : Workspace) (d : SourceDescriptor) : Except PathFault Bool × Workspace :=
  match w.attach d with
  | (.ok true, w) => (.ok true, w.fireSources.loadAdded d.sourceId)
  | (outcome, w) => (outcome, w)

/-- Remove a source; its records stay until everything is loaded again. -/
def removeSource (w : Workspace) (id : String) : Bool × Workspace :=
  match w.sources.get? id with
  | none => (false, w)
  | some a =>
      let w := { w with sources := w.sources.erase id }.release a
      (true, (w.remark .info ("Source removed: " ++ id)).fireSources)

/-- Give up all sources. -/
def releaseAll (w : Workspace) : Workspace :=
  { w.sources.values.foldl release w with sources := .empty }

/-- The descriptors with the dataset in front, unless they have one. -/
def withDataset (ds : List SourceDescriptor) : List SourceDescriptor :=
  if ds.any fun d => d.kind = .builtin then ds else .builtin builtinPriority :: ds

/-- Load the sources that were attached for a new start. -/
def finishPopulating (w : Workspace) : List LoadResult × Workspace :=
  let (rs, w) := w.loadAll
  (rs, w.remark .info
    ("Initialized with " ++ toString w.sources.size ++ " sources, " ++ toString w.registry.size
      ++ " tokens (" ++ toString w.registry.uniqueSize ++ " unique)"))

/-- Start anew with declared sources: those that are not valid are left out, the others are
loaded.  Where the path of a source cannot be looked up, those before it are attached and nothing
is loaded. -/
def populate (w : Workspace) (ds : List SourceDescriptor) :
    Except PathFault (List LoadResult) × Workspace :=
  let w := w.remark .info "Initializing token sources"
  let w := if w.sources.isEmpty then w else w.releaseAll.resetCatalogue
  match attachEach (withDataset ds) w with
  | (.error why, w) => (.error why, w)
  | (.ok (), w) =>
      let (rs, w) := w.finishPopulating
      (.ok rs, w)

/-- Is it work for a change of a source? -/
def Task.isChange : Task → Bool
  | .change _ => true
  | _ => false

/-- Give up all sources and listeners; changes that are about to be dealt with are dropped. -/
def dispose (w : Workspace) : Workspace :=
  let w := { w with pending := w.pending.filter fun t => !Task.isChange t }.releaseAll
  { w with tokensChanged := w.tokensChanged.clear, sourcesChanged := w.sourcesChanged.clear }

/-- What is displayed about an attached source. -/
structure SourceInfo where
  /-- The identity. -/
  id : String
  /-- The kind. -/
  kind : SourceKind
  /-- What the source is. -/
  description : String
  /-- Is the source in use? -/
  enabled : Bool
  /-- The rank. -/
  priority : Int
  /-- How many keys it contributed. -/
  tokens : Nat
  deriving Repr, DecidableEq

/-- What is displayed about the attached sources. -/
def sourcesInfo (w : Workspace) : List SourceInfo :=
  w.sources.entries.map fun (id, a) =>
    ⟨id, a.source.descriptor.kind, a.source.description, a.source.descriptor.enabled,
      a.source.priority, (w.catalogue.keysOf id).length⟩

/-- The active records of both themes, light first. -/
def activeRecords (w : Workspace) : List TokenRecord :=
  Theme.all.flatMap w.registry.ofTheme

end Workspace

end DesignTokens
