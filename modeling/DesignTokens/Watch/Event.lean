import DesignTokens.File.Path

/-!
# File events

An event says what happened to a file or a directory.  Watching a file concerns what touches that
very file, under whatever name; watching a tree concerns files that come and go.
-/

namespace DesignTokens

/-- What can happen to a file or a directory. -/
inductive EventKind
  | modified
  | created
  | deleted
  | moved
  | opened
  | closed
  deriving Repr, DecidableEq

/-- The kind of event with a given name. -/
def EventKind.ofLabel? : String → Option EventKind
  | "modified" => some .modified
  | "created" => some .created
  | "deleted" => some .deleted
  | "moved" => some .moved
  | "opened" => some .opened
  | "closed" => some .closed
  | _ => none

/-- Something that happened to a file or a directory. -/
structure FileEvent where
  /-- What happened. -/
  kind : EventKind
  /-- Where it happened. -/
  path : Path
  /-- Where a moved file went. -/
  destination : Option Path
  /-- Did it happen to a directory? -/
  onDirectory : Bool
  deriving Repr, DecidableEq

/-- A file that came or went. -/
inductive TreeChange
  | created (p : Path)
  | deleted (p : Path)
  deriving Repr, DecidableEq

namespace FileEvent

/-- Does the event change a file? -/
def changesFile (e : FileEvent) : Bool :=
  !e.onDirectory && e.kind != .opened && e.kind != .closed

/-- The paths that the event names. -/
def touched (e : FileEvent) : List Path :=
  e.path :: e.destination.toList

/-- Do two paths name one file? -/
def isSameFile (workingDirectory : List Text) (p q : Path) : Except PathFault Bool := do
  return (← p.resolve? workingDirectory) == (← q.resolve? workingDirectory)

/-- Does one of some paths name a file?  They are looked for one after another. -/
def anySameFile (workingDirectory : List Text) (target : Path) :
    List Path → Except PathFault Bool
  | [] => .ok false
  | p :: ps => do
      if ← isSameFile workingDirectory p target then return true
      else anySameFile workingDirectory target ps

/-- Does the event change the file that a path names? -/
def concerns (e : FileEvent) (workingDirectory : List Text) (target : Path) :
    Except PathFault Bool :=
  if e.changesFile then anySameFile workingDirectory target e.touched else .ok false

/-- The files that came or went; a moved file does both. -/
def treeChanges (e : FileEvent) : List TreeChange :=
  if e.onDirectory then []
  else
    match e.kind with
    | .created => [.created e.path]
    | .deleted => [.deleted e.path]
    | .moved => [.deleted e.path, .created (e.destination.getD (Path.ofText []))]
    | _ => []

end FileEvent

end DesignTokens
