import DesignTokens.File.Tree
import DesignTokens.Script.Properties
import DesignTokens.Style.Variables
import DesignTokens.Token.Record

/-!
# What a file is

The ending of a file's name says which kind of source reads it, and a look at its content whether
it defines tokens at all.  The theme of a style sheet follows from its name, or else from its
content.
-/

namespace DesignTokens

/-- The endings of style sheets. -/
def stylesheetSuffixes : List String :=
  [".css", ".less", ".scss", ".sass"]

/-- The endings of theme configurations. -/
def scriptSuffixes : List String :=
  [".js", ".ts", ".mjs", ".cjs"]

/-- The kind of source that reads a file. -/
def SourceKind.ofPath? (p : Path) : Option SourceKind :=
  if stylesheetSuffixes.contains p.suffix then some .stylesheet
  else if scriptSuffixes.contains p.suffix then some .script
  else none

/-- The theme of a style sheet: its name decides, then a dark scope in its content. -/
def Theme.ofStylesheet (p : Path) (content : Text) : Theme :=
  let name := Text.lower p.name
  if Text.occurs "dark".toList name then .dark
  else if Text.occurs "light".toList name then .light
  else if Style.hasDarkScope content then .dark
  else .light

/-- Does a text define tokens, as a source of a kind? -/
def SourceKind.definesTokens (kind : SourceKind) (content : Text) : Bool :=
  match kind with
  | .stylesheet => Style.hasDefinition content
  | .script => !(Script.properties content).isEmpty
  | .builtin => false

/-- Does a file define tokens, as a source of a kind?  A file that cannot be read does not, but the
path must be one that can be handed to the file system. -/
def FileTree.definesTokens (f : FileTree) (p : Path) (kind : SourceKind) : Except PathFault Bool :=
  match f.readText p with
  | .ok content => .ok (kind.definesTokens content)
  | .error (.unfit why) => .error why
  | .error _ => .ok false

end DesignTokens
