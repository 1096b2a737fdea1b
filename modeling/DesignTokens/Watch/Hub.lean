import DesignTokens.Journal
import DesignTokens.Watch.Debouncer
import DesignTokens.Watch.Event

/-!
# Watches and observers

The hub has the watches on files, the timers of their debouncers, and the observers that run.  A
watch is known by its position and keeps it when it is stopped; starting it runs one observer,
stopping it ends the observer and forgets what its debouncer has gathered.  Observers on trees
pass changes on at once and have no timers.
-/

namespace DesignTokens

/-- A watch on one file, on behalf of a subject. -/
structure FileWatch (κ : Type) where
  /-- The file. -/
  path : Path
  /-- On whose behalf the file is watched. -/
  subject : κ
  /-- The events that have not been delivered yet. -/
  debouncer : Debouncer
  deriving Repr, DecidableEq

/-- An observer that runs. -/
inductive Observer
  /-- On the directory of the file of a watch. -/
  | file (watch : Nat)
  /-- On a tree, for the follower with a number. -/
  | tree (follower : Nat) (root : Path)
  deriving Repr, DecidableEq

/-- Watches on files, with their timers and the observers that run. -/
structure Hub (κ : Type) where
  /-- The timers; their owners are watches. -/
  timers : Timers Nat
  /-- The watches. -/
  watches : List (FileWatch κ)
  /-- The observers, in the order in which they were started. -/
  observers : List Observer
  deriving Repr, DecidableEq

namespace Hub

variable {κ : Type}

/-- Nothing is watched. -/
def empty : Hub κ :=
  ⟨.none, [], []⟩

/-- Add a watch, which is not started. -/
def addWatch (h : Hub κ) (p : Path) (subject : κ) : Hub κ :=
  { h with watches := h.watches ++ [⟨p, subject, .idle⟩] }

/-- Does the observer of a watch run? -/
def isWatching (h : Hub κ) (watch : Nat) : Bool :=
  h.observers.contains (.file watch)

/-- Replace the debouncer of a watch. -/
def setDebouncer (h : Hub κ) (watch : Nat) (d : Debouncer) : Hub κ :=
  { h with watches := h.watches.modify watch fun w => { w with debouncer := d } }

/-- Start a watch, unless it runs. -/
def start (h : Hub κ) (watch : Nat) : Hub κ :=
  if h.isWatching watch then h else { h with observers := h.observers ++ [.file watch] }

/-- Stop a watch: nothing that was gathered is delivered. -/
def stop (h : Hub κ) (watch : Nat) : Hub κ :=
  match h.watches[watch]? with
  | none => h
  | some w =>
      let (d, timers) := w.debouncer.cancel h.timers
      { h.setDebouncer watch d with timers, observers := h.observers.erase (.file watch) }

/-- The journal entry for a watch that starts. -/
def startEntry (p : Path) : LogEntry :=
  ⟨.debug, .watching, "Watching " ++ p.toString⟩

/-- The journal entry for a watch that stops. -/
def stopEntry (p : Path) : LogEntry :=
  ⟨.debug, .watching, "Stopped watching " ++ p.toString⟩

/-- The journal entry for an observer that starts on a tree. -/
def treeEntry (root : Path) : LogEntry :=
  ⟨.debug, .watching, "Watching tree " ++ root.toString⟩

/-- Does a follower observe a tree? -/
def isFollowing (h : Hub κ) (follower : Nat) : Bool :=
  h.observers.any fun
    | .tree n _ => n == follower
    | .file _ => false

/-- Observe a tree for a follower, unless it observes one. -/
def startTree (h : Hub κ) (follower : Nat) (root : Path) : Hub κ :=
  if h.isFollowing follower then h else { h with observers := h.observers ++ [.tree follower root] }

/-- End the observer of a follower. -/
def stopTree (h : Hub κ) (follower : Nat) : Hub κ :=
  { h with
    observers := h.observers.filter fun
      | .tree n _ => n != follower
      | .file _ => true }

/-- A watch is told about an event: if it concerns the file, the debouncer is triggered. -/
def touch (h : Hub κ) (workingDirectory : List Text) (watch : Nat) (e : FileEvent) :
    Except PathFault (Hub κ) :=
  match h.watches[watch]? with
  | none => .ok h
  | some w => do
      if ← e.concerns workingDirectory w.path then
        let (d, timers) := w.debouncer.trigger h.timers watch w.path
        return { h.setDebouncer watch d with timers }
      else return h

/-- A timer fires, live or not: what its watch has gathered is delivered to the subject, if there
is anything. -/
def expire (h : Hub κ) (timer : Nat) : Option κ × Hub κ :=
  let h := { h with timers := h.timers.stop timer }
  match h.timers.owner? timer with
  | none => (none, h)
  | some watch =>
      match h.watches[watch]? with
      | none => (none, h)
      | some w =>
          let (paths, d) := w.debouncer.elapse
          let h := h.setDebouncer watch d
          (if paths.isEmpty then none else some w.subject, h)

end Hub

end DesignTokens
