import DesignTokens.File.Path
import DesignTokens.OrderedMap

/-!
# File trees

A file tree holds directories and files under absolute places, and a working directory at which
relative paths start.  Looking a path up follows it component by component, so that a double dot
leads to the parent of a directory that exists.
-/

namespace DesignTokens

/-- The components of an absolute path without double dots. -/
abbrev Place := List Text

/-- What stands at a place. -/
inductive FileEntry
  /-- A directory. -/
  | directory
  /-- A file with its content. -/
  | file (content : Bytes)
  deriving Repr, DecidableEq

/-- Why a path cannot be opened. -/
inductive FileError
  /-- A component does not exist. -/
  | missing
  /-- A component that should be a directory is none. -/
  | notDirectory
  /-- The path leads to a directory. -/
  | isDirectory
  /-- The path, or a component on the way, is too long. -/
  | overlong
  deriving Repr, DecidableEq

/-- The message for a path that cannot be opened. -/
def FileError.message (e : FileError) (p : Path) : String :=
  match e with
  | .missing => "[Errno 2] No such file or directory: " ++ quoted p.toString
  | .notDirectory => "[Errno 20] Not a directory: " ++ quoted p.toString
  | .isDirectory => "[Errno 21] Is a directory: " ++ quoted p.toString
  | .overlong => (PathFault.overlong p).message

/-- Why the text of a file cannot be read. -/
inductive ReadError
  /-- The path cannot be opened. -/
  | unopened (e : FileError) (p : Path)
  /-- The content is no text. -/
  | undecoded (e : Utf8.Error)
  /-- The path cannot be handed to the file system. -/
  | unfit (why : PathFault)
  deriving Repr, DecidableEq

/-- The message for a text that cannot be read. -/
def ReadError.message : ReadError → String
  | .unopened e p => e.message p
  | .undecoded e => e.message
  | .unfit why => why.message

/-- Directories and files, with a working directory. -/
structure FileTree where
  /-- What stands at each place. -/
  entries : OrderedMap Place FileEntry
  /-- Where relative paths start. -/
  workingDirectory : Place

namespace FileTree

/-- What stands at a place; the root is always a directory. -/
def entry? (f : FileTree) (place : Place) : Option FileEntry :=
  if place = [] then some .directory else f.entries.get? place

/-- Follow components from a directory. -/
def follow (f : FileTree) (place : Place) : List Text → Except FileError Place
  | [] => .ok place
  | part :: parts =>
      match f.entry? place with
      | none => .error .missing
      | some (.file _) => .error .notDirectory
      | some .directory =>
          if part = ['.', '.'] then follow f place.dropLast parts
          else if Path.isOverlongPart part then .error .overlong
          else if (f.entry? (place ++ [part])).isSome then follow f (place ++ [part]) parts
          else .error .missing

/-- The place to which a path leads. -/
def locate (f : FileTree) (p : Path) : Except FileError Place :=
  if p.isOverlong then .error .overlong
  else f.follow (if p.isAbsolute then [] else f.workingDirectory) p.parts

/-- What a path leads to.  A path that cannot be handed to the file system leads nowhere, but one
that is too long cannot be looked up. -/
def look? (f : FileTree) (p : Path) : Except PathFault (Option FileEntry) :=
  if p.fault?.isSome then .ok none
  else
    match f.locate p with
    | .ok place => .ok (f.entry? place)
    | .error .overlong => .error (.overlong p)
    | .error _ => .ok none

/-- Does the path lead anywhere? -/
def exists? (f : FileTree) (p : Path) : Except PathFault Bool :=
  (f.look? p).map Option.isSome

/-- Does the path lead to a directory? -/
def isDirectory (f : FileTree) (p : Path) : Except PathFault Bool :=
  (f.look? p).map fun e => e matches some .directory

/-- Does the path lead to a file? -/
def isFile (f : FileTree) (p : Path) : Except PathFault Bool :=
  (f.look? p).map fun e => e matches some (.file _)

/-- The content of a file. -/
def read (f : FileTree) (p : Path) : Except ReadError Bytes :=
  match p.fault? with
  | some why => .error (.unfit why)
  | none =>
      match f.locate p with
      | .error e => .error (.unopened e p)
      | .ok place =>
          match f.entry? place with
          | some (.file content) => .ok content
          | some .directory => .error (.unopened .isDirectory p)
          | none => .error (.unopened .missing p)

/-- The text of a file, with its line ends unified. -/
def readText (f : FileTree) (p : Path) : Except ReadError Text := do
  match Utf8.decode (← f.read p) with
  | .ok t => return t.unifyNewlines
  | .error e => throw (.undecoded e)

/-- The names and entries directly below a place. -/
def children (f : FileTree) (place : Place) : List (Text × FileEntry) :=
  f.entries.entries.filterMap fun (q, e) =>
    match q.getLast? with
    | some name => if q.dropLast = place then some (name, e) else none
    | none => none

/-- The directories below a place, each as the components that lead there, the place itself
included. -/
def directoriesBelow (f : FileTree) (place : Place) : List (List Text) :=
  [] :: f.entries.entries.filterMap fun (q, e) =>
    if e = .directory ∧ place <+: q ∧ q ≠ place then some (q.drop place.length) else none

/-- Create a directory with all directories above it. -/
def makeDirectory (f : FileTree) (place : Place) : FileTree :=
  let above := (List.range (place.length + 1)).map fun n => place.take n
  { f with
    entries := above.foldl
      (fun m q => if q = [] || m.contains q then m else m.insert q .directory) f.entries }

/-- Write a file, creating the directories above it. -/
def write (f : FileTree) (place : Place) (content : Bytes) : FileTree :=
  let f := f.makeDirectory place.dropLast
  { f with entries := f.entries.insert place (.file content) }

/-- Remove what stands at a place and everything below it. -/
def remove (f : FileTree) (place : Place) : FileTree :=
  { f with
    entries := f.entries.keys.foldl (fun m q => if place <+: q then m.erase q else m) f.entries }

/-- The tree that has only its working directory. -/
def start (workingDirectory : Place) : FileTree :=
  makeDirectory ⟨.empty, workingDirectory⟩ workingDirectory

/-- The place that a path names, whether or not something stands there. -/
def placeOf (f : FileTree) (p : Path) : Place :=
  (p.resolve f.workingDirectory).parts

end FileTree

end DesignTokens
