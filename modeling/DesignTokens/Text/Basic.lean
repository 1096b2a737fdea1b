/-!
# Text as a list of code points

Positions, widths and lengths in this library count code points, so a text is the list of its
code points and every reader is a function on lists.  This file holds what is not yet in the
list library: looking for one text inside another, and cutting a text at the first or the last
occurrence of a character.
-/

namespace DesignTokens

/-- A text is the list of its code points. -/
abbrev Text := List Char

namespace Text

/-- The text of a string literal or field. -/
def ofString (s : String) : Text :=
  s.toList

/-- Does `needle` occur somewhere in the text? -/
def occurs (needle : Text) : Text → Bool
  | [] => needle.isEmpty
  | c :: cs => needle.isPrefixOf (c :: cs) || occurs needle cs

/-- What follows `lead`, if the text begins with it. -/
def after? : (lead : Text) → Text → Option Text
  | [], t => some t
  | _ :: _, [] => none
  | a :: as, c :: cs => if a = c then after? as cs else none

/-- Cut at the first occurrence of `sep`: the part before it, and the part behind it if `sep`
occurs at all. -/
def cutFirst (sep : Char) : Text → Text × Option Text
  | [] => ([], none)
  | c :: cs =>
      if c = sep then ([], some cs)
      else
        let (before, behind) := cutFirst sep cs
        (c :: before, behind)

/-- Cut at the last occurrence of `sep`: the part before it and the part behind it. -/
def cutLast? (sep : Char) : Text → Option (Text × Text)
  | [] => none
  | c :: cs =>
      match cutLast? sep cs with
      | some (before, behind) => some (c :: before, behind)
      | none => if c = sep then some ([], cs) else none

/-- The number of line feeds. -/
def lineFeeds (t : Text) : Nat :=
  t.count '\n'

/-- Pad with spaces on the right up to `width` code points. -/
def padRight (width : Nat) (t : Text) : Text :=
  t ++ List.replicate (width - t.length) ' '

/-- Pad with spaces on the left up to `width` code points. -/
def padLeft (width : Nat) (t : Text) : Text :=
  List.replicate (width - t.length) ' ' ++ t

/-- What follows a lead is what makes up the text with it. -/
theorem after?_eq_some_iff {lead t rest : Text} : after? lead t = some rest ↔ t = lead ++ rest := by
  induction lead generalizing t with
  | nil => simp [after?]
  | cons a as ih =>
      cases t with
      | nil => simp [after?]
      | cons c cs =>
          by_cases h : a = c
          · simp [after?, h, ih]
          · simp [after?, h, Ne.symm h]

end Text

end DesignTokens
