import DesignTokens.OrderedMap
import DesignTokens.Style.Comment
import DesignTokens.Text.Blank

/-!
# Style rules

A style text without comments is cut at its closing braces.  What stands before a closing brace
is a rule when it has an opening brace: the declarations stand behind the last opening brace,
and the selector between that brace and the one before it.  Only innermost blocks are read, and
text behind the last closing brace belongs to no rule.
-/

namespace DesignTokens

namespace Style

/-- The declarations of a block: property names with their values, in order of first mention. -/
abbrev Declarations := OrderedMap Text Text

/-- A selector with its declarations, and the line of the selector's first character. -/
structure Rule where
  /-- The selector, with single spaces. -/
  selector : Text
  /-- The declarations; a property declared twice keeps its last value. -/
  declarations : Declarations
  /-- The line on which the selector begins, counted from one. -/
  line : Nat

/-- A declaration has a name before its first colon and a value behind it, neither blank. -/
def declaration? (t : Text) : Option (Text × Text) :=
  match Text.cutFirst ':' (Text.strip t) with
  | (_, none) => none
  | (before, some behind) =>
      let name := Text.strip before
      let value := Text.collapse behind
      if name.isEmpty || value.isEmpty then none else some (name, value)

/-- The declarations of a block, separated by semicolons. -/
def blockDeclarations (block : Text) : Declarations :=
  OrderedMap.ofList ((block.splitOn ';').filterMap declaration?)

/-- The rule that ends where a chunk of the text ends; `line` is the line on which the chunk
begins. -/
def Rule.ofChunk? (line : Nat) (chunk : Text) : Option Rule := do
  let (head, block) ← Text.cutLast? '\x7b' chunk
  let raw := ((Text.cutLast? '\x7b' head).map Prod.snd).getD head
  let before := head.take (head.length - (Text.stripLeft raw).length)
  let decls := blockDeclarations block
  if Text.isBlankText raw || decls.isEmpty then none
  else some ⟨Text.collapse raw, decls, line + Text.lineFeeds before⟩

/-- The rules of consecutive chunks, the first of which begins on `line`. -/
def rulesOfChunks (line : Nat) : List Text → List Rule
  | [] => []
  | chunk :: chunks =>
      (Rule.ofChunk? line chunk).toList ++ rulesOfChunks (line + Text.lineFeeds chunk) chunks

/-- The chunks of a text: what stands before each of its closing braces. -/
def chunks (t : Text) : List Text :=
  (t.splitOn '\x7d').dropLast

/-- The rules of a style text, in order; lines are counted in the text without comments. -/
def rules (t : Text) : List Rule :=
  rulesOfChunks 1 (chunks (removeComments t))

end Style

end DesignTokens
