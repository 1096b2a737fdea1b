import DesignTokens.Journal
import DesignTokens.Settings.Descriptor
import DesignTokens.Source.Dataset
import DesignTokens.Source.Detection
import DesignTokens.Token.Name

/-!
# Sources

A source turns what its descriptor names into token records: the dataset, a style sheet or a
theme configuration.  A plain source reads nothing yet.  Loading gives records or an error;
errors that are the source's own carry its identity, the others are passed on as they are.
-/

namespace DesignTokens

/-- How a source gets its records. -/
inductive Reader
  /-- It has no way to get any. -/
  | plain
  /-- From the dataset. -/
  | dataset (place : DatasetPlace)
  /-- From the variables of a style sheet. -/
  | stylesheet
  /-- From the properties of a theme configuration. -/
  | script
  deriving Repr, DecidableEq

/-- A source of tokens. -/
structure Source where
  /-- What the source was declared as. -/
  descriptor : SourceDescriptor
  /-- How it gets its records. -/
  reader : Reader
  deriving Repr, DecidableEq

/-- Why a source that has a file or a dataset cannot be loaded. -/
inductive SourceFault
  /-- It has no file. -/
  | noPath
  /-- Its file cannot be read. -/
  | unreadable (p : Path) (e : ReadError)
  /-- A file of the dataset cannot be opened. -/
  | datasetUnopened (p : Path) (e : FileError)
  /-- The descriptions of the dataset are no document. -/
  | datasetSyntax (f : Yaml.Fault)
  deriving Repr, DecidableEq

/-- The message of a fault. -/
def SourceFault.message : SourceFault → String
  | .noPath => "file path is required"
  | .unreadable p e => "cannot read " ++ p.toString ++ ": " ++ e.message
  | .datasetUnopened p e => "bundled dataset unavailable: " ++ e.message p
  | .datasetSyntax f => "bundled dataset unavailable: " ++ f.message

/-- Why a source gives no records. -/
inductive LoadError
  /-- A fault of the source with this identity. -/
  | source (id : String) (why : SourceFault)
  /-- A path cannot be handed to the file system. -/
  | badPath (why : PathFault)
  /-- A file of the dataset is no text. -/
  | undecoded (e : Utf8.Error)
  /-- The descriptions are no text, or a scalar has no value of its type. -/
  | badContent (f : Yaml.Fault)
  /-- The descriptions are not grouped by section, but a value of this type. -/
  | noSections (typeName : String)
  /-- The descriptions have a number that is too long to be written. -/
  | unwritable
  /-- The source has no way to get records. -/
  | noReader
  deriving Repr, DecidableEq

namespace LoadError

/-- The message for a source without records. -/
def message : LoadError → String
  | .source id why => id ++ ": " ++ why.message
  | .badPath why => why.message
  | .undecoded e => e.message
  | .badContent f => f.message
  | .noSections typeName => (DatasetError.noSections typeName).message
  | .unwritable => DatasetError.unwritable.message
  | .noReader => "BaseTokenSource must implement load()"

/-- The error of the source with this identity for a dataset that cannot be read. -/
def ofDatasetError (id : String) : DatasetError → LoadError
  | .unopened p e => .source id (.datasetUnopened p e)
  | .syntaxFault f => .source id (.datasetSyntax f)
  | .badPath why => .badPath why
  | .undecoded e => .undecoded e
  | .badContent f => .badContent f
  | .noSections typeName => .noSections typeName
  | .unwritable => .unwritable

end LoadError

namespace Source

/-- The source that a descriptor describes; `place` is where the dataset is. -/
def ofDescriptor (place : DatasetPlace) (d : SourceDescriptor) : Source :=
  match d.kind with
  | .builtin => ⟨d, .dataset place⟩
  | .stylesheet => ⟨d, .stylesheet⟩
  | .script => ⟨d, .script⟩

/-- The identity of the source. -/
def id (s : Source) : String :=
  s.descriptor.sourceId

/-- The file behind the source. -/
def path? (s : Source) : Option Path :=
  s.descriptor.path?

/-- The rank of the source's records. -/
def priority (s : Source) : Int :=
  match s.descriptor.priority, s.reader with
  | some p, _ => p
  | none, .dataset _ => builtinPriority
  | none, _ => declaredPriority

/-- The last component of the source's file. -/
def fileName (s : Source) : String :=
  String.ofList ((s.path?.map Path.name).getD [])

/-- What the source is, for display. -/
def description (s : Source) : String :=
  match s.reader with
  | .plain => s.descriptor.kind.label ++ " source"
  | .dataset _ => "Bundled Ant Design tokens"
  | .stylesheet => "Stylesheet: " ++ s.fileName
  | .script => "Script config: " ++ s.fileName

/-- The name of the way in which the source gets its records. -/
def typeName (s : Source) : String :=
  match s.reader with
  | .plain => "BaseTokenSource"
  | .dataset _ => "BuiltinTokenSource"
  | .stylesheet => "StylesheetTokenSource"
  | .script => "ScriptTokenSource"

/-- The source with its identity and rank, for diagnostics. -/
def shown (s : Source) : String :=
  s.typeName ++ "(" ++ quoted s.id ++ ", priority=" ++ toString s.priority ++ ")"

/-- Can the source be used: is it enabled, and is there a file where it needs one? -/
def isValid (f : FileTree) (s : Source) : Except PathFault Bool :=
  if !s.descriptor.enabled then .ok false
  else
    match s.reader, s.path? with
    | .plain, _ | .dataset _, _ => .ok true
    | .stylesheet, some p => f.isFile p
    | .script, some p => if scriptSuffixes.contains p.suffix then f.isFile p else .ok false
    | _, none => .ok false

/-- The file to watch for the source, if its descriptor asks for it. -/
def watched? (s : Source) : Option Path :=
  match s.reader with
  | .dataset _ => none
  | _ => if s.descriptor.watch then s.path? else none

/-- The record of a source. -/
def record (s : Source) (name value : Text) (theme : Theme) (category : Category)
    (description : Option Text) : TokenRecord :=
  { name := String.ofList name, value := String.ofList value, theme, category
    origin := if s.reader matches .dataset _ then .builtin else .custom
    priority := s.priority
    description := description.map String.ofList
    sourceFile := if s.reader matches .dataset _ then none else s.path?.map Path.toString
    sourceKind := s.descriptor.kind
    sourceId := s.id }

/-- The text of the source's file. -/
def content (f : FileTree) (s : Source) : Except LoadError (Path × Text) :=
  match s.path? with
  | none => .error (.source s.id .noPath)
  | some p =>
      match f.readText p with
      | .ok t => .ok (p, t)
      | .error (.unfit why) => .error (.badPath why)
      | .error e => .error (.source s.id (.unreadable p e))

/-- The records of a dataset: the light theme, then the dark one. -/
def datasetRecords (s : Source) (d : Dataset) : List TokenRecord :=
  let themed (theme : Theme) (tokens : OrderedMap Text Text) : List TokenRecord :=
    tokens.entries.map fun (name, value) =>
      s.record name value theme (Category.ofName (String.ofList name)) (d.descriptions.get? name)
  themed .light d.light ++ themed .dark d.dark

/-- The records of a style sheet. -/
def stylesheetRecords (s : Source) (p : Path) (t : Text) : List TokenRecord :=
  let theme := Theme.ofStylesheet p t
  (Style.resolved (Style.variablesOf .scopes t)).map fun (name, value) =>
    s.record (Text.dashed (Text.strip name)) (Text.strip value) theme
      (Category.ofName (String.ofList name)) none

/-- The records of a theme configuration. -/
def scriptRecords (s : Source) (t : Text) : List TokenRecord :=
  (Script.properties t).entries.map fun (key, value) =>
    let name := tokenNameOfKey (String.ofList key)
    s.record name.toList (Text.strip value) .light (Category.ofName name) none

/-- The records of a source, or why it gives none. -/
def load (f : FileTree) (s : Source) : Except LoadError (List TokenRecord) :=
  match s.reader with
  | .plain => .error .noReader
  | .dataset place =>
      match Dataset.read f place with
      | .ok d => .ok (s.datasetRecords d)
      | .error e => .error (.ofDatasetError s.id e)
  | .stylesheet => do
      let (p, t) ← s.content f
      return s.stylesheetRecords p t
  | .script => do
      let (_, t) ← s.content f
      return s.scriptRecords t

/-- The journal entry for a number of records that were loaded. -/
def loadedEntry (f : FileTree) (s : Source) (count : Nat) : LogEntry :=
  let loaded := "Loaded " ++ toString count ++ " "
  let path := (s.path?.map Path.toString).getD ""
  match s.reader, s.content f with
  | .stylesheet, .ok (p, t) =>
      ⟨.debug, .stylesheet,
        loaded ++ "tokens from " ++ path ++ " (" ++ (Theme.ofStylesheet p t).label ++ ")"⟩
  | .script, _ => ⟨.debug, .script, loaded ++ "tokens from " ++ path⟩
  | _, _ => ⟨.debug, .dataset, loaded ++ "builtin tokens"⟩

end Source

end DesignTokens
