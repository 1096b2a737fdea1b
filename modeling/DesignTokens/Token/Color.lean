import DesignTokens.Text.Blank
import DesignTokens.Text.Lower
import DesignTokens.Text.Word

/-!
# Literal colours

A value is a literal colour when it is a hexadecimal colour, a call of one of the colour
functions with numbers in it, or a colour keyword.
-/

namespace DesignTokens

namespace Color

/-- The colour keywords. -/
def keywords : List Text :=
  ["transparent", "currentcolor", "inherit", "initial", "unset", "black", "white", "red", "green",
    "blue", "yellow", "cyan", "magenta", "gray", "grey", "orange", "purple", "pink", "brown"].map
    Text.ofString

/-- Is the character an ASCII hexadecimal digit? -/
def isHexChar (c : Char) : Bool :=
  isAsciiDigit c || ('a' ≤ c && c ≤ 'f') || ('A' ≤ c && c ≤ 'F')

/-- A hash and three to eight hexadecimal digits. -/
def isHex : Text → Bool
  | '#' :: digits => 3 ≤ digits.length && digits.length ≤ 8 && digits.all isHexChar
  | _ => false

/-- Does a character spell a letter, in either case?  The long s spells an s. -/
def spells (letter c : Char) : Bool :=
  c.toLower == letter || (letter == 's' && c == '\u017f')

/-- What follows a word in either case. -/
def behindWord? : (word : Text) → Text → Option Text
  | [], t => some t
  | _ :: _, [] => none
  | a :: as, c :: cs => if spells a c then behindWord? as cs else none

/-- The arguments of a call: at least one allowed character, then the closing parenthesis at the
end of the text. -/
def isArguments (isAllowed : Char → Bool) : Text → Bool
  | '(' :: t =>
      let inside := t.dropLast
      t.getLast? == some ')' && !inside.isEmpty && inside.all isAllowed
  | _ => false

/-- A call of a function, whose name may have an alpha channel's letter behind it. -/
def isCall (word : Text) (isAllowed : Char → Bool) (t : Text) : Bool :=
  match behindWord? word t with
  | none => false
  | some rest =>
      isArguments isAllowed rest
        || ((behindWord? ['a'] rest).map (isArguments isAllowed)).getD false

/-- The characters of numbers and of what separates them. -/
def isNumeric (c : Char) : Bool :=
  isDigitChar c || isBlank c || c == ',' || c == '.' || c == '/' || c == '%'

/-- The characters of angles. -/
def isAngular (c : Char) : Bool :=
  isNumeric c || spells 'd' c || spells 'e' c || spells 'g' c

/-- Is a trimmed value a literal colour? -/
def isLiteral (t : Text) : Bool :=
  isHex t || isCall "rgb".toList isNumeric t || isCall "hsl".toList isAngular t
    || keywords.contains (Text.lower t)

end Color

/-- Is a value a literal colour? -/
def isColor (value : String) : Bool :=
  Color.isLiteral (Text.strip value.toList)

end DesignTokens
