import DesignTokens.File.Tree
import DesignTokens.Text.Blank
import DesignTokens.Text.Word

/-!
# Documents

A document is a text with an address, a language and a content version, read by lines.  It may be
opened from a file, and every update of the text takes the next version.
-/

namespace DesignTokens

/-- A text with its address, language and content version. -/
structure Document where
  /-- The address under which results are remembered. -/
  uri : String
  /-- The content. -/
  text : Text
  /-- The language of the content. -/
  language : String
  /-- The content version. -/
  version : Int

namespace Document

/-- A line without the carriage returns at its end. -/
def lineOf (t : Text) : Text :=
  (t.reverse.dropWhile (· == '\r')).reverse

/-- The lines of the content; there is always at least one. -/
def lines (d : Document) : List Text :=
  (d.text.splitOn '\n').map lineOf

/-- The number of lines. -/
def lineCount (d : Document) : Nat :=
  d.lines.length

/-- A line by its number; negative numbers count from the end. -/
def line? (d : Document) (n : Int) : Option Text :=
  if 0 ≤ n then d.lines[n.toNat]?
  else if -n ≤ d.lineCount then d.lines[(d.lineCount + n).toNat]?
  else none

/-- Replace the content and take the next version. -/
def update (d : Document) (text : Text) : Document :=
  { d with text := text, version := d.version + 1 }

/-- The languages in which references are looked for. -/
def supportedLanguages : List String :=
  ["css", "less", "scss", "sass", "javascript", "javascriptreact", "typescript",
    "typescriptreact", "vue", "html", "markdown"]

/-- The language of a file, by its lower-case extension. -/
def languageOfExtension (extension : String) : String :=
  match extension with
  | ".css" => "css"
  | ".less" => "less"
  | ".scss" => "scss"
  | ".sass" => "sass"
  | ".js" | ".mjs" | ".cjs" => "javascript"
  | ".jsx" => "javascriptreact"
  | ".ts" => "typescript"
  | ".tsx" => "typescriptreact"
  | ".vue" => "vue"
  | ".html" | ".htm" => "html"
  | ".md" => "markdown"
  | _ => "plaintext"

/-- The document in a file, under the file's address. -/
def ofFile (f : FileTree) (p : Path) (version : Int) : Except ReadError Document :=
  match p.resolve? f.workingDirectory, f.readText p with
  | .error why, _ => .error (.unfit why)
  | .ok _, .error e => .error e
  | .ok q, .ok t => .ok ⟨q.uri, t, languageOfExtension p.suffix, version⟩

/-- Is the document in a language in which references are looked for? -/
def isSupported (d : Document) : Bool :=
  supportedLanguages.contains d.language

end Document

end DesignTokens
