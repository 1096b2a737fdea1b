import DesignTokens.Workspace.Basic

/-!
# Following files

A discovery adds the token files that it finds to its workspace, once or as they come, and removes
the sources of files that go.  Events are passed to every observer; what they and the timers ask
for is scheduled and done later, in the order in which it was asked for.
-/

namespace DesignTokens

namespace Workspace

/-- Add an entry about a discovery to the journal. -/
def remarkDiscovery (w : Workspace) (message : String) : Workspace :=
  w.note ⟨.info, .discovery, message⟩

/-! ### Discoveries -/

/-- Start to use a new discovery. -/
def addDiscovery (w : Workspace) (d : Discovery) : Workspace :=
  { w with discoveries := w.discoveries ++ [d] }

/-- Replace a discovery. -/
def setDiscovery (w : Workspace) (n : Nat) (d : Discovery) : Workspace :=
  { w with discoveries := w.discoveries.set n d }

/-- Add a file as a source, unless it was added before or defines no tokens. -/
def acceptFile (w : Workspace) (n : Nat) (p : Path) : Except PathFault Bool × Workspace :=
  match w.discoveries[n]?, SourceKind.ofPath? p with
  | some d, some kind =>
      let descriptor := d.descriptorOf kind p
      if d.discovered.contains descriptor.sourceId then (.ok false, w)
      else
        match w.files.definesTokens p kind with
        | .error why => (.error why, w)
        | .ok false => (.ok false, w)
        | .ok true =>
            match w.addSource descriptor with
            | (.ok true, w) =>
                let d := { d with discovered := d.discovered.insert descriptor.sourceId p }
                (.ok true,
                  (w.setDiscovery n d).remarkDiscovery ("Added token file: " ++ p.toString))
            | (outcome, w) => (outcome, w)
  | _, _ => (.ok false, w)

/-- Remove the source of a file that was discovered. -/
def forgetFile (w : Workspace) (n : Nat) (p : Path) : Bool × Workspace :=
  match w.discoveries[n]? with
  | none => (false, w)
  | some d =>
      match d.discovered.entries.find? fun e => e.2 == p with
      | none => (false, w)
      | some (id, _) =>
          (w.setDiscovery n { d with discovered := d.discovered.erase id }).removeSource id

/-- Add files one after another; those that became sources are given. -/
def acceptEach (n : Nat) : List Path → Workspace → Except PathFault (List Path) × Workspace
  | [], w => (.ok [], w)
  | p :: ps, w =>
      match w.acceptFile n p with
      | (.error why, w) => (.error why, w)
      | (.ok added, w) =>
          let (rest, w) := acceptEach n ps w
          (rest.map fun rest => if added then p :: rest else rest, w)

/-- Search the tree and add the token files that are found. -/
def scan (w : Workspace) (n : Nat) : Except Glob.Error (List Path) × Workspace :=
  match w.discoveries[n]? with
  | none => (.ok [], w)
  | some d =>
      match w.files.isDirectory d.root with
      | .error why => (.error (.badPath why), w)
      | .ok false =>
          (.ok [], w.remarkDiscovery ("Discovery root does not exist: " ++ d.root.toString))
      | .ok true =>
          match d.findFiles w.files with
          | .error e => (.error e, w)
          | .ok files =>
              let w := w.remarkDiscovery
                ("Found " ++ toString files.length ++ " potential token files under "
                  ++ d.root.toString)
              let (added, w) := acceptEach n files w
              (added.mapError Glob.Error.badPath, w)

/-- Observe the root of a discovery, unless it is observed or is no directory. -/
def observeRoot (w : Workspace) (n : Nat) : Workspace :=
  match w.discoveries[n]? with
  | none => w
  | some d =>
      match w.hub.isFollowing n, w.files.isDirectory d.root with
      | false, .ok true =>
          { w with hub := w.hub.startTree n d.root }.note (Hub.treeEntry d.root)
      | _, _ => w

/-- Are files that come and go acted upon? -/
def setFollowing (w : Workspace) (n : Nat) (following : Bool) : Workspace :=
  match w.discoveries[n]? with
  | none => w
  | some d => w.setDiscovery n { d with following }

/-- Search the tree, then follow files that come and go. -/
def follow (w : Workspace) (n : Nat) : Except Glob.Error (List Path) × Workspace :=
  match (w.setFollowing n true).scan n with
  | (.error e, w) => (.error e, w)
  | (.ok added, w) => (.ok added, w.observeRoot n)

/-- No longer observe the root of a discovery. -/
def unfollow (w : Workspace) (n : Nat) : Workspace :=
  { w with hub := w.hub.stopTree n }

/-- No longer observe the root of a discovery, and forget what it found; the sources stay. -/
def disposeDiscovery (w : Workspace) (n : Nat) : Workspace :=
  let w := w.unfollow n
  match w.discoveries[n]? with
  | none => w
  | some d => w.setDiscovery n { d with discovered := .empty, following := false }

/-! ### Tasks -/

/-- Do a piece of work. -/
def run (w : Workspace) : Task → Workspace
  | .change id => (w.sourceChanged id).2
  | .accept n p => (w.acceptFile n p).2
  | .forget n p => (w.forgetFile n p).2

/-- Do the work that is about to begin; what was asked for is about to begin now. -/
def tick (w : Workspace) : Workspace :=
  w.pending.foldl run { w with pending := w.scheduled, scheduled := [] }

/-- Do all work. -/
def drain (w : Workspace) : Workspace :=
  (w.pending ++ w.scheduled).foldl run { w with pending := [], scheduled := [] }

/-- Ask for a piece of work. -/
def schedule (w : Workspace) (t : Task) : Workspace :=
  { w with scheduled := w.scheduled ++ [t] }

/-! ### Timers and events -/

/-- A timer fires: if something was gathered, its source is to be loaded again. -/
def expire (w : Workspace) (timer : Nat) : Workspace :=
  match w.hub.expire timer with
  | (none, hub) => { w with hub }
  | (some id, hub) => { w with hub }.schedule (.change id)

/-- All live timers fire, and nothing else happens. -/
def expireAll (w : Workspace) : Workspace :=
  w.hub.timers.live.foldl expire w

/-- The live timers fire one after another, and after each all work is done. -/
def settle (w : Workspace) : Workspace :=
  w.hub.timers.live.foldl (fun w n => (w.expire n).drain) w

/-- The work that a change in a tree asks for. -/
def Task.ofTreeChange (n : Nat) : TreeChange → Task
  | .created p => .accept n p
  | .deleted p => .forget n p

/-- The path of a change in a tree. -/
def changedPath : TreeChange → Path
  | .created p | .deleted p => p

/-- An observer is told about an event.  An observer of a file looks for the file that the event
names, which may be impossible. -/
def handle (w : Workspace) (e : FileEvent) : Observer → Except PathFault Workspace
  | .file n => (w.hub.touch w.files.workingDirectory n e).map fun hub => { w with hub }
  | .tree n _ =>
      match w.discoveries[n]? with
      | none => .ok w
      | some d =>
          if !d.following then .ok w
          else
            .ok ((e.treeChanges.filter fun c => d.isMatch (changedPath c)).foldl
              (fun w c => w.schedule (Task.ofTreeChange n c)) w)

/-- Observers are told about an event one after another, and after each all work is done. -/
def deliverTo (e : FileEvent) : List Observer → Workspace → Except PathFault Unit × Workspace
  | [], w => (.ok (), w)
  | o :: os, w =>
      match w.handle e o with
      | .error why => (.error why, w)
      | .ok w => deliverTo e os w.drain

/-- Every observer that runs is told about an event. -/
def deliver (w : Workspace) (e : FileEvent) : Except PathFault Unit × Workspace :=
  deliverTo e w.hub.observers w

end Workspace

end DesignTokens
