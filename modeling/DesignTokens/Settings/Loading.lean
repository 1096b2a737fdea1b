import DesignTokens.File.Tree
import DesignTokens.Settings.Validation
import DesignTokens.Yaml.Document

/-!
# Loading settings

Settings are read from a file.  A file that is missing, or that says nothing, gives the default
settings; everything else is an error with the path in its message, except for content that is no
text and for scalars that do not have the value their type asks for.
-/

namespace DesignTokens

/-- Why settings cannot be loaded. -/
inductive SettingsError
  /-- The file cannot be opened. -/
  | unopened (p : Path) (e : FileError)
  /-- The content is no document. -/
  | syntaxFault (p : Path) (f : Yaml.Fault)
  /-- The document is no mapping. -/
  | noMapping (p : Path)
  /-- The document violates the rules for settings. -/
  | invalid (p : Path) (d : Yaml.Document) (violations : List Violation)
  /-- A message about the document cannot be encoded. -/
  | unencodable (e : Utf8.Unencodable)
  /-- The content is no text, or a scalar has no value of its type. -/
  | badContent (f : Yaml.Fault)
  /-- The path cannot be looked up. -/
  | badPath (why : PathFault)

/-- The message for settings that cannot be loaded. -/
def SettingsError.message : SettingsError → String
  | .unopened p e => "Cannot read settings from " ++ p.toString ++ ": " ++ e.message p
  | .syntaxFault p f => "Cannot read settings from " ++ p.toString ++ ": " ++ f.message
  | .noMapping p => "Settings file " ++ p.toString ++ " must contain a mapping"
  | .invalid p d vs => "Invalid settings in " ++ p.toString ++ ": " ++ Violation.report d vs
  | .unencodable e => e.message
  | .badContent f => f.message
  | .badPath why => why.message

namespace Settings

/-- The settings that a document stands for. -/
def ofStream (p : Path) (s : Yaml.Stream) : Except SettingsError Settings :=
  match Yaml.Document.read s with
  | .error f => .error (if f.isSyntax then .syntaxFault p f else .badContent f)
  | .ok d =>
      if d.isNothing d.root then .ok .default
      else if (d.entries? d.root).isNone then .error (.noMapping p)
      else
        match d.toSettings d.root with
        | .ok s => .ok s
        | .error (.violations vs) => .error (.invalid p d vs)
        | .error (.unencodable e) => .error (.unencodable e)

/-- Load the settings in a file. -/
def load (f : FileTree) (path : Option Path) : Except SettingsError Settings :=
  match path with
  | none => .ok .default
  | some p =>
      match f.exists? p with
      | .error why => .error (.badPath why)
      | .ok false => .ok .default
      | .ok true =>
          match f.read p with
          | .error (.unopened e _) => .error (.unopened p e)
          | .error (.undecoded e) => .error (.badContent (.undecoded e))
          | .error (.unfit why) => .error (.badPath why)
          | .ok bytes => ofStream p (.ofBytes bytes)

end Settings

end DesignTokens
