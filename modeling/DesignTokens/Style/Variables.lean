import DesignTokens.Style.Reference
import DesignTokens.Style.Rule
import DesignTokens.Style.Selector

/-!
# Variables of a style text

The variables of a style text are the custom properties that its accepted rules declare.  Their
values may refer to each other; resolution replaces a reference by the value of its target, or
by its fallback, and follows a chain of references for a limited number of steps, so that cyclic
definitions end.
-/

namespace DesignTokens

namespace Style

/-- Variables with their values, in the order of first definition. -/
abbrev Variables := OrderedMap Text Text

/-- A custom property has a name that begins with two dashes. -/
def isCustomProperty (name : Text) : Bool :=
  "--".toList.isPrefixOf name

/-- The custom properties that a rule declares. -/
def Rule.customProperties (r : Rule) : List (Text × Text) :=
  r.declarations.entries.filter fun d => isCustomProperty d.1

/-- The variables that the accepted rules of a text define; a later definition overrides an
earlier one and keeps its place. -/
def variablesOf (a : Acceptance) (t : Text) : Variables :=
  OrderedMap.ofList
    (((rules t).filter fun r => a.selector r.selector).flatMap Rule.customProperties)

/-- How many references deep a chain is followed. -/
def referenceDepth : Nat :=
  10

/-- The text with its references replaced, following chains for at most `budget` steps.  A
reference to an undefined name without a fallback stays as it is. -/
def resolve (defined : Variables) : (budget : Nat) → Text → Text
  | 0, t => t
  | budget + 1, t =>
      (segments isNameChar t).flatMap fun
        | .plain c => [c]
        | .call r =>
            match defined.get? r.name, r.trimmedFallback? with
            | some value, _ => resolve defined budget value
            | none, some f => resolve defined budget f
            | none, none => r.text

/-- The variables with the references in their values resolved. -/
def resolved (vs : Variables) : List (Text × Text) :=
  vs.entries.map fun (name, value) => (name, resolve vs referenceDepth value)

/-- Does the text use a dark theme scope outside its comments? -/
def hasDarkScope (t : Text) : Bool :=
  darkScopeFrom none (removeComments t)

/-- Is a character one that a definition's value may have? -/
def isValueChar (c : Char) : Bool :=
  !(c == ';' || c == '\x7b' || c == '\x7d')

/-- Does a definition begin here: a name, a colon, a value and a semicolon? -/
def definitionAt (t : Text) : Bool :=
  match referenceName? isNameChar t with
  | none => false
  | some (_, t) =>
      match Text.stripLeft t with
      | ':' :: t =>
          !(t.takeWhile isValueChar).isEmpty && (t.dropWhile isValueChar).head? == some ';'
      | _ => false

/-- Does a definition begin anywhere in the text? -/
def definitionFrom : Text → Bool
  | [] => false
  | c :: cs => definitionAt (c :: cs) || definitionFrom cs

/-- A cheap look for at least one definition outside comments. -/
def hasDefinition (t : Text) : Bool :=
  definitionFrom (removeComments t)

end Style

end DesignTokens
