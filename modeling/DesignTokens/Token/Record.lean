import DesignTokens.Token.Category
import DesignTokens.Token.Color
import DesignTokens.Token.Theme

/-!
# Token records

A record is one definition of a token under one theme, with its provenance.  Several records
may compete for the same key; the one with the least precedence is the active one.
-/

namespace DesignTokens

/-- Whether a record comes from the bundled dataset or from the user. -/
inductive Origin
  | builtin
  | custom
  deriving Repr, DecidableEq, Inhabited

namespace Origin

/-- The name of an origin. -/
def label : Origin → String
  | .builtin => "builtin"
  | .custom => "custom"

/-- The origin with a given label. -/
def ofLabel? (s : String) : Option Origin :=
  [builtin, custom].find? fun o => o.label == s

end Origin

/-- The variants of token sources. -/
inductive SourceKind
  | builtin
  | stylesheet
  | script
  deriving Repr, DecidableEq, Inhabited

namespace SourceKind

/-- The name of a kind of source. -/
def label : SourceKind → String
  | .builtin => "builtin"
  | .stylesheet => "stylesheet"
  | .script => "script"

/-- The kind with a given label. -/
def ofLabel? (s : String) : Option SourceKind :=
  [builtin, stylesheet, script].find? fun k => k.label == s

/-- The spellings of a kind in settings. -/
def spellings : List (Text × SourceKind) :=
  [ ("builtin".toList, .builtin), ("stylesheet".toList, .stylesheet), ("css".toList, .stylesheet),
    ("less".toList, .stylesheet), ("scss".toList, .stylesheet), ("script".toList, .script),
    ("javascript".toList, .script), ("js".toList, .script), ("ts".toList, .script) ]

/-- The kind that a setting names, in any case and with white space around it. -/
def ofSpelling? (s : String) : Option SourceKind :=
  spellings.lookup (Text.lower (Text.strip s.toList))

end SourceKind

/-- What competing records have in common: the token's name and the theme. -/
abbrev TokenKey := String × Theme

/-- One definition of a token under one theme. -/
structure TokenRecord where
  /-- The token's name. -/
  name : String
  /-- The value as it was written. -/
  value : String
  /-- The theme for which the value holds. -/
  theme : Theme
  /-- The category. -/
  category : Category
  /-- Bundled or the user's. -/
  origin : Origin
  /-- The rank of the source; lower ranks win. -/
  priority : Int
  /-- What the token means. -/
  description : Option String
  /-- The file from which the record was read. -/
  sourceFile : Option String
  /-- The kind of source. -/
  sourceKind : SourceKind
  /-- The identity of the source. -/
  sourceId : String
  deriving Repr, DecidableEq

namespace TokenRecord

/-- The key for which the record competes. -/
def key (r : TokenRecord) : TokenKey :=
  (r.name, r.theme)

/-- The pair that ranks the record among its competitors. -/
def precedence (r : TokenRecord) : Int × String :=
  (r.priority, r.sourceId)

/-- Is the value a literal colour? -/
def isColor (r : TokenRecord) : Bool :=
  DesignTokens.isColor r.value

end TokenRecord

/-- Is one precedence at most another?  Lower ranks come first, then source identities in code
point order. -/
def precedenceLe (p q : Int × String) : Bool :=
  decide (p.1 < q.1) || (decide (p.1 = q.1) && !decide (q.2 < p.2))

end DesignTokens
