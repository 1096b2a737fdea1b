import DesignTokens.File.Tree
import DesignTokens.Source.Bundled.Dark
import DesignTokens.Source.Bundled.Descriptions
import DesignTokens.Source.Bundled.Light
import DesignTokens.Style.Variables
import DesignTokens.Yaml.Document

/-!
# The dataset

The dataset has the tokens of two themes and says what they mean.  It is bundled with the program,
or read from a directory that has two style sheets and, perhaps, a file of descriptions.  Only the
root selectors of the style sheets count, and references stay as they are written.
-/

namespace DesignTokens

/-- Where the dataset is. -/
inductive DatasetPlace
  /-- With the program. -/
  | bundled
  /-- In a directory. -/
  | directory (p : Path)
  deriving Repr, DecidableEq

/-- The tokens of two themes with their values, and what tokens mean. -/
structure Dataset where
  /-- The tokens of the light theme. -/
  light : OrderedMap Text Text
  /-- The tokens of the dark theme. -/
  dark : OrderedMap Text Text
  /-- The descriptions of tokens. -/
  descriptions : OrderedMap Text Text

/-- Why a dataset cannot be read. -/
inductive DatasetError
  /-- A file cannot be opened. -/
  | unopened (p : Path) (e : FileError)
  /-- The descriptions are no document. -/
  | syntaxFault (f : Yaml.Fault)
  /-- A path cannot be handed to the file system. -/
  | badPath (why : PathFault)
  /-- A file is no text. -/
  | undecoded (e : Utf8.Error)
  /-- The descriptions are no text, or a scalar has no value of its type. -/
  | badContent (f : Yaml.Fault)
  /-- The descriptions are not grouped by section, but a value of this type. -/
  | noSections (typeName : String)
  /-- A name or a description has a number that is too long to be written. -/
  | unwritable
  deriving Repr, DecidableEq

namespace DatasetError

/-- The message for a dataset that cannot be read. -/
def message : DatasetError → String
  | .unopened p e => e.message p
  | .syntaxFault f => f.message
  | .badPath why => why.message
  | .undecoded e => e.message
  | .badContent f => f.message
  | .noSections typeName => "'" ++ typeName ++ "' object has no attribute 'values'"
  | .unwritable => Integer.unwritableMessage

/-- The error for a file that cannot be read. -/
def ofReadError : ReadError → DatasetError
  | .unopened e p => .unopened p e
  | .undecoded e => .undecoded e
  | .unfit why => .badPath why

/-- The error for a path that cannot be looked up. -/
def ofPathFault : PathFault → DatasetError
  | .overlong p => .unopened p .overlong
  | why => .badPath why

/-- The error for descriptions that cannot be read. -/
def ofFault (f : Yaml.Fault) : DatasetError :=
  if f.isSyntax then .syntaxFault f else .badContent f

end DatasetError

namespace Dataset

/-- The dataset that is bundled with the program. -/
def bundled : Dataset :=
  let texts (rows : List (String × String)) : OrderedMap Text Text :=
    OrderedMap.ofList (rows.map fun row => (row.1.toList, row.2.toList))
  ⟨texts Bundled.light, texts Bundled.dark, texts Bundled.descriptions⟩

/-- A name or a description, written as a text. -/
def written (d : Yaml.Document) (v : Yaml.Value) : Except DatasetError Text :=
  match d.display v with
  | some t => .ok t
  | none => .error .unwritable

/-- The descriptions in a section; a section that is no mapping has none. -/
def sectionDescriptions (d : Yaml.Document) (v : Yaml.Value) :
    Except DatasetError (List (Text × Text)) :=
  ((d.entries? v).getD []).mapM fun e => do return (← written d e.1, ← written d e.2)

/-- The descriptions that a document groups by section. -/
def descriptionsOf (s : Yaml.Stream) : Except DatasetError (OrderedMap Text Text) := do
  let d ← (Yaml.Document.read s).mapError DatasetError.ofFault
  if d.isNothing d.root then return .empty
  match d.entries? d.root with
  | some sections => do
      let groups ← sections.mapM fun e => sectionDescriptions d e.2
      return OrderedMap.ofList groups.flatten
  | none => throw (.noSections (d.fullTypeName d.root))

/-- The descriptions in a file; a missing file has none. -/
def descriptionsIn (f : FileTree) (p : Path) : Except DatasetError (OrderedMap Text Text) := do
  if ← (f.exists? p).mapError DatasetError.ofPathFault then
    descriptionsOf (.ofBytes (← (f.read p).mapError DatasetError.ofReadError))
  else return .empty

/-- The tokens of a style sheet under the root selectors. -/
def tokensIn (f : FileTree) (p : Path) : Except DatasetError (OrderedMap Text Text) :=
  match f.readText p with
  | .error e => .error (.ofReadError e)
  | .ok t => .ok (Style.variablesOf (.listed Style.rootSelectors) t)

/-- Read the dataset in a directory. -/
def inDirectory (f : FileTree) (directory : Path) : Except DatasetError Dataset := do
  let light ← tokensIn f (directory.child "antd-light-theme.css".toList)
  let dark ← tokensIn f (directory.child "antd-dark-theme.css".toList)
  let descriptions ← descriptionsIn f (directory.child "token_descriptions.yaml".toList)
  return ⟨light, dark, descriptions⟩

/-- Read the dataset at a place. -/
def read (f : FileTree) : DatasetPlace → Except DatasetError Dataset
  | .bundled => .ok bundled
  | .directory p => inDirectory f p

end Dataset

end DesignTokens
