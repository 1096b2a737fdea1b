import DesignTokens.Glob.Braces
import DesignTokens.Glob.Pattern
import DesignTokens.Settings.Descriptor

/-!
# Looking for token files

A discovery looks below a root for files that match its patterns, outside excluded directories.
There are two ways to look: searching the tree for all files of a pattern, and asking of one path
whether it matches, as it is needed when a file comes or goes.
-/

namespace DesignTokens

/-- What to look for below a root, and what was found. -/
structure Discovery where
  /-- Where the search starts. -/
  root : Path
  /-- The patterns, without alternatives. -/
  patterns : List Text
  /-- The names of directories and files that are passed over. -/
  exclude : List Text
  /-- At how many files a search stops. -/
  maxFiles : Int
  /-- The rank of the sources that are found. -/
  priority : Int
  /-- The files that became sources, by the identity of the source. -/
  discovered : OrderedMap String Path
  /-- Are files that come and go acted upon? -/
  following : Bool

namespace Discovery

/-- The names that are passed over when nothing else is said. -/
def usualExclude : List Text :=
  ["node_modules".toList]

/-- At how many files a search stops when nothing else is said. -/
def usualMaxFiles : Int :=
  100

/-- A discovery that has not found anything yet. -/
def new (root : Path) (patterns : List Text) (exclude : List Text) (maxFiles priority : Int) :
    Discovery :=
  ⟨root, patterns.flatMap Glob.expandBraces, exclude, maxFiles, priority, .empty, false⟩

/-- Is one of the components passed over? -/
def excludes (d : Discovery) (parts : List Text) : Bool :=
  parts.any fun part => d.exclude.contains part

/-- Does a pattern match a path below the root?  Two stars and a slash at its front may also stand
for no directory at all. -/
def matchesPattern (relative pattern : Text) : Bool :=
  Glob.wildcard pattern relative
    || match Text.after? "**/".toList pattern with
      | some rest => Glob.wildcard rest relative
      | none => false

/-- Does a path match one of the patterns, outside the excluded directories? -/
def isMatch (d : Discovery) (p : Path) : Bool :=
  match p.relativeTo? d.root with
  | none => false
  | some parts =>
      !d.excludes parts && d.patterns.any (matchesPattern (Path.mk .none parts).text)

/-- Take the files that were not found yet from a list, until there are enough.  The flag says
that there are enough. -/
def gather (f : FileTree) (d : Discovery) :
    (found : List Path) → List Path → Except PathFault (List Path × Bool)
  | found, [] => .ok (found, false)
  | found, p :: ps => do
      if !(← f.isFile p) || found.contains p || d.excludes ((p.relativeTo? d.root).getD []) then
        gather f d found ps
      else
        let found := found ++ [p]
        if d.maxFiles ≤ found.length then return (found, true) else gather f d found ps

/-- Search the tree along patterns, one after another. -/
def searchFrom (f : FileTree) (d : Discovery) (found : List Path) :
    (patterns : List Text) → Except Glob.Error (List Path)
  | [] => .ok found
  | t :: ts => do
      let pattern ← Glob.Pattern.ofText t
      let paths ← (pattern.paths f d.root).mapError Glob.Error.badPath
      match ← (gather f d found paths).mapError Glob.Error.badPath with
      | (found, true) => return found
      | (found, false) => searchFrom f d found ts

/-- The files below the root that match a pattern. -/
def findFiles (f : FileTree) (d : Discovery) : Except Glob.Error (List Path) :=
  searchFrom f d [] d.patterns

/-- The descriptor of the source for a file. -/
def descriptorOf (d : Discovery) (kind : SourceKind) (p : Path) : SourceDescriptor :=
  ⟨kind, true, some d.priority, some p.toString, true⟩

end Discovery

end DesignTokens
