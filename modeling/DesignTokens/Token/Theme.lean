/-!
# Themes

A token has one value under the light theme and one under the dark theme.
-/

namespace DesignTokens

/-- One of the two exclusive value sets under which a token resolves. -/
inductive Theme
  | light
  | dark
  deriving Repr, DecidableEq, Inhabited

namespace Theme

/-- Both themes, light first. -/
def all : List Theme :=
  [.light, .dark]

/-- The name of a theme in settings, answers and messages. -/
def label : Theme → String
  | .light => "light"
  | .dark => "dark"

/-- The theme with a given label. -/
def ofLabel? (s : String) : Option Theme :=
  all.find? fun t => t.label == s

end Theme

end DesignTokens
