import DesignTokens.Registry.Basic
import DesignTokens.Text.Lower

/-!
# Searching the registry

A keyword matches a name, regardless of case, when the name contains it, or when every
dash-separated segment of the keyword is a segment of the name.  Results are ranked by how well
the name matches, then by name; records that tie keep their order.
-/

namespace DesignTokens

/-- How well a name matches a keyword, best first. -/
inductive MatchTier
  /-- The name is the keyword. -/
  | whole
  /-- The name begins with the keyword. -/
  | start
  /-- The name contains the keyword. -/
  | inside
  /-- The name has every segment of the keyword. -/
  | segments
  deriving Repr, DecidableEq

namespace MatchTier

/-- The rank of a tier; lower ranks come first. -/
def rank : MatchTier → Nat
  | .whole => 0
  | .start => 1
  | .inside => 2
  | .segments => 3

/-- The segments of a lower-case keyword that are not empty. -/
def keywordSegments (keyword : Text) : List Text :=
  (keyword.splitOn '-').filter fun s => !s.isEmpty

/-- Does a lower-case name have every segment of the keyword, of which there is at least one? -/
def hasSegments (keyword name : Text) : Bool :=
  !(keywordSegments keyword).isEmpty
    && (keywordSegments keyword).all fun s => (name.splitOn '-').contains s

/-- The best tier in which a lower-case name matches a lower-case keyword. -/
def of? (keyword name : Text) : Option MatchTier :=
  if name = keyword then some .whole
  else if keyword.isPrefixOf name then some .start
  else if Text.occurs keyword name then some .inside
  else if hasSegments keyword name then some .segments
  else none

end MatchTier

namespace Registry

/-- The records that a search looks at: the active ones of a theme, or the whole audit trail. -/
def candidates (g : Registry) : Option Theme → List TokenRecord
  | some t => g.ofTheme t
  | none => g.audit.values.flatten

/-- A record with the tier in which its name matches a lower-case keyword. -/
def ranked? (keyword : Text) (r : TokenRecord) : Option (MatchTier × TokenRecord) :=
  (MatchTier.of? keyword (Text.lower r.name.toList)).map fun tier => (tier, r)

/-- Is one match listed no later than another? -/
def rankedLe (a b : MatchTier × TokenRecord) : Bool :=
  decide (a.1.rank < b.1.rank)
    || (decide (a.1.rank = b.1.rank) && !decide (b.2.name < a.2.name))

/-- The records whose name matches a keyword, best matches first. -/
def search (g : Registry) (keyword : String) (theme : Option Theme) : List TokenRecord :=
  let hits := (g.candidates theme).filterMap (ranked? (Text.lower keyword.toList))
  (hits.mergeSort rankedLe).map Prod.snd

end Registry

end DesignTokens
