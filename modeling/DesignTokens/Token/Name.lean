import DesignTokens.Text.Blank
import DesignTokens.Text.Lower

/-!
# Token names

Token names begin with two dashes.  A name that a user types may lack them, and the key of a
theme configuration is written in camel case without any prefix.
-/

namespace DesignTokens

namespace Text

/-- The text with two dashes in front, unless it has them. -/
def dashed (t : Text) : Text :=
  if "--".toList.isPrefixOf t then t else '-' :: '-' :: t

/-- A dash between every lower-case letter or digit and the capital behind it (ASCII only). -/
def kebab : Text → Text
  | a :: b :: rest =>
      if (a.isLower || a.isDigit) && b.isUpper then a :: '-' :: kebab (b :: rest)
      else a :: kebab (b :: rest)
  | t => t

end Text

/-- A typed name as a token name: trimmed, with its two dashes. -/
def tokenName (typed : String) : String :=
  String.ofList (Text.dashed (Text.strip typed.toList))

/-- The token name of a configuration key. -/
def tokenNameOfKey (key : String) : String :=
  String.ofList ("--ant-".toList ++ Text.lower (Text.kebab key.toList))

end DesignTokens
