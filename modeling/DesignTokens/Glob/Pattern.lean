import DesignTokens.File.Tree
import DesignTokens.Glob.Wildcard

/-!
# Walking a file tree along a pattern

A path pattern is a list of steps, one for each component.  A step is a name, a wildcard pattern
for the names in one directory, or two stars, which stand for any number of directories.  A
pattern that ends in a slash leads to directories only.
-/

namespace DesignTokens

namespace Glob

/-- One component of a path pattern. -/
inductive Step
  /-- Exactly this name. -/
  | name (name : Text)
  /-- Any name that the items match. -/
  | wild (items : List Item)
  /-- Any number of directories. -/
  | anyDepth
  deriving Repr, DecidableEq

/-- Why nothing can be looked for along a pattern. -/
inductive Error
  /-- The text is empty. -/
  | blank
  /-- The pattern starts at the root directory. -/
  | absolute
  /-- Two stars are only a part of a component. -/
  | partialDepth
  /-- The pattern has no component. -/
  | noComponent
  /-- The pattern has no component, and ends in a slash. -/
  | onlySlash
  /-- A path on the way cannot be looked up. -/
  | badPath (why : PathFault)
  deriving Repr, DecidableEq

/-- The message for a pattern along which nothing can be looked for. -/
def Error.message : Error → String
  | .blank => "Unacceptable pattern: ''"
  | .absolute => "Non-relative patterns are unsupported"
  | .partialDepth => "Invalid pattern: '**' can only be an entire path component"
  | .noComponent => "tuple index out of range"
  | .onlySlash => "'_TerminatingSelector' object has no attribute 'select_from'"
  | .badPath why => why.message

/-- A path pattern. -/
structure Pattern where
  /-- The steps, one for each component. -/
  steps : List Step
  /-- Does the pattern lead to directories only? -/
  directoriesOnly : Bool
  deriving Repr, DecidableEq

/-- The step of a component. -/
def Step.ofPart (part : Text) : Except Error Step :=
  if part = "**".toList then .ok .anyDepth
  else if Text.occurs "**".toList part then .error .partialDepth
  else if isWildcard part then .ok (.wild (items part.length part))
  else .ok (.name part)

/-- Read a path pattern. -/
def Pattern.ofText (t : Text) : Except Error Pattern :=
  let endsInSlash := t.getLast? == some '/'
  if t.isEmpty then .error .blank
  else if Root.ofText t ≠ .none then .error .absolute
  else
    match Path.partsOf t with
    | [] => .error (if endsInSlash then .onlySlash else .noComponent)
    | parts => (parts.mapM Step.ofPart).map fun steps => ⟨steps, endsInSlash⟩

/-- Join lists of paths that were looked for one after another. -/
def joined (lists : List (Except PathFault (List Path))) : Except PathFault (List Path) := do
  return (← lists.mapM id).flatten

/-- The paths to which steps lead from a directory.  Every step but the last must lead to a
directory, and the last one too where only directories are wanted. -/
def walk (f : FileTree) (directoriesOnly : Bool) : List Step → Path → Except PathFault (List Path)
  | [], p => .ok [p]
  | step :: steps, p =>
      let mustBeDirectory := directoriesOnly || !steps.isEmpty
      match step with
      | .name n => do
          let q := p.child n
          if ← (if mustBeDirectory then f.isDirectory q else f.exists? q)
          then walk f directoriesOnly steps q else return []
      | .wild is =>
          match f.locate p with
          | .error _ => .ok []
          | .ok place =>
              joined ((f.children place).map fun (n, e) =>
                if (mustBeDirectory && e != .directory) || !matchItems is n then .ok []
                else walk f directoriesOnly steps (p.child n))
      | .anyDepth =>
          match f.locate p with
          | .error _ => .ok []
          | .ok place =>
              joined ((f.directoriesBelow place).map fun parts =>
                walk f directoriesOnly steps { p with parts := p.parts ++ parts })

/-- The paths below a directory that a pattern leads to, in order of their components. -/
def Pattern.paths (pattern : Pattern) (f : FileTree) (root : Path) :
    Except PathFault (List Path) := do
  if ← f.isDirectory root then
    let found ← walk f pattern.directoriesOnly pattern.steps root
    return found.mergeSort fun p q => Path.partsLe p.parts q.parts
  else return []

end Glob

end DesignTokens
