import DesignTokens.Text.Blank
import DesignTokens.Text.Word
import DesignTokens.Token.Theme

/-!
# Selectors that may define tokens

A selector list is accepted when each of its parts is.  A part is accepted when it is one of the
root selectors, or a theme scope: a theme class or a theme attribute, alone or on a host element.
The same two forms of theme scope, found anywhere in a text, are what marks a style sheet as dark.
-/

namespace DesignTokens

namespace Style

/-- What an accepted selector part applies to. -/
inductive Scope
  /-- The root, whatever the theme. -/
  | root
  /-- One theme only. -/
  | themed (theme : Theme)
  deriving Repr, DecidableEq

/-- The parts of a selector list, with single spaces. -/
def selectorParts (selector : Text) : List Text :=
  (selector.splitOn ',').map Text.collapse

/-- The selectors of the bundled dataset. -/
def rootSelectors : List Text :=
  [":root".toList, ".css-var-root".toList, ".qz-css-var".toList]

/-- The part without the host element at its front. -/
def behindHost (part : Text) : Text :=
  match Text.after? "html".toList part, Text.after? "body".toList part,
      Text.after? ":root".toList part with
  | some rest, _, _ => rest
  | none, some rest, _ => rest
  | none, none, some rest => rest
  | none, none, none => part

/-- A theme's label at the front of a text, and what follows it. -/
def themeWord? (t : Text) : Option (Theme × Text) :=
  match Text.after? "dark".toList t, Text.after? "light".toList t with
  | some rest, _ => some (.dark, rest)
  | none, some rest => some (.light, rest)
  | none, none => none

/-- The text without one quote at its front. -/
def behindQuote : Text → Text
  | '\x22' :: rest => rest
  | '\x27' :: rest => rest
  | t => t

/-- A theme attribute at the front of a text, with what follows its closing bracket. -/
def themeAttribute? (t : Text) : Option (Theme × Text) := do
  let t ← Text.after? "[data-theme".toList t
  let t ← Text.after? "=".toList (Text.stripLeft t)
  let (theme, t) ← themeWord? (behindQuote (Text.stripLeft t))
  let rest ← Text.after? "]".toList (behindQuote t)
  return (theme, rest)

/-- A theme class at the front of a text, with what follows the theme's label. -/
def themeClass? (t : Text) : Option (Theme × Text) :=
  (Text.after? ".".toList t).bind themeWord?

/-- The endings that a theme class may have. -/
def themeEndings : List Text :=
  ["-theme".toList, "-mode".toList]

/-- The scope of a part, when tokens may be defined under it. -/
def partScope? (part : Text) : Option Scope :=
  if part ∈ rootSelectors then some .root
  else
    match themeClass? (behindHost part), themeAttribute? (behindHost part) with
    | some (theme, rest), _ =>
        if rest = [] ∨ rest ∈ themeEndings then some (.themed theme) else none
    | none, some (theme, rest) => if rest = [] then some (.themed theme) else none
    | none, none => none

/-- Which selectors a reader of token definitions accepts. -/
inductive Acceptance
  /-- The root selectors and the theme scopes. -/
  | scopes
  /-- Exactly the selectors of a list. -/
  | listed (selectors : List Text)

namespace Acceptance

/-- Is one part of a selector list accepted? -/
def part (a : Acceptance) (p : Text) : Bool :=
  match a with
  | .scopes => (partScope? p).isSome
  | .listed selectors => (selectors.map Text.collapse).contains p

/-- Is a whole selector list accepted?  No part may be blank. -/
def selector (a : Acceptance) (s : Text) : Bool :=
  (selectorParts s).all fun p => !p.isEmpty && a.part p

end Acceptance

/-- Does a dark scope begin here?  `previous` is the character before the text. -/
def darkScopeAt (previous : Option Char) (t : Text) : Bool :=
  (match themeAttribute? t with
    | some (.dark, _) => true
    | _ => false)
  || (match themeClass? t with
    | some (.dark, rest) =>
        !(previous.any isNameChar)
          && (rest :: themeEndings.filterMap fun e => Text.after? e rest).any
            fun behind => !(behind.head?.any isNameChar)
    | _ => false)

/-- Does a dark scope begin anywhere in the text? -/
def darkScopeFrom (previous : Option Char) : Text → Bool
  | [] => false
  | c :: cs => darkScopeAt previous (c :: cs) || darkScopeFrom (some c) cs

end Style

end DesignTokens
