import DesignTokens.Text.Lower
import DesignTokens.Text.Basic

/-!
# Token categories

A token's category is read off its name.  Colours come first: a name is a colour's when it has
the word for colour in it, or the name of a palette as one of its dash-separated segments.  The
other categories are tried in order, each with its own words.
-/

namespace DesignTokens

/-- What kind of design decision a token holds. -/
inductive Category
  | color
  | size
  | font
  | line
  | motion
  | shadow
  | zIndex
  | opacity
  | other
  deriving Repr, DecidableEq, Inhabited

namespace Category

/-- All categories. -/
def all : List Category :=
  [.color, .size, .font, .line, .motion, .shadow, .zIndex, .opacity, .other]

/-- The name of a category in options, answers and messages. -/
def label : Category → String
  | .color => "color"
  | .size => "size"
  | .font => "font"
  | .line => "line"
  | .motion => "motion"
  | .shadow => "shadow"
  | .zIndex => "zIndex"
  | .opacity => "opacity"
  | .other => "other"

/-- The category with a given label. -/
def ofLabel? (s : String) : Option Category :=
  all.find? fun c => c.label == s

/-- The palettes whose name, as a whole segment, marks a colour. -/
def palettes : List Text :=
  ["blue", "red", "green", "orange", "purple", "cyan", "magenta", "yellow", "pink", "volcano",
    "geekblue", "gold", "lime"].map Text.ofString

/-- The words of the other categories; the first category with a word in the name wins. -/
def wordRules : List (Category × List Text) :=
  [ (.size, ["size", "width", "height", "padding", "margin", "radius", "control"].map
      Text.ofString),
    (.font, ["font".toList]),
    (.line, ["line".toList, "border".toList]),
    (.motion, ["motion".toList, "duration".toList]),
    (.shadow, ["shadow".toList]),
    (.zIndex, ["z-index".toList]),
    (.opacity, ["opacity".toList]) ]

/-- The category of a lower-case name. -/
def ofLowerName (name : Text) : Category :=
  if Text.occurs "color".toList name || (name.splitOn '-').any palettes.contains then .color
  else
    ((wordRules.find? fun rule => rule.2.any fun w => Text.occurs w name).map Prod.fst).getD .other

/-- The category of a token name, in any case. -/
def ofName (name : String) : Category :=
  ofLowerName (Text.lower name.toList)

end Category

end DesignTokens
