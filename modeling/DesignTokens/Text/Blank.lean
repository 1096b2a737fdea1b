import DesignTokens.Text.Basic

/-!
# White space

White space is the Unicode notion used for trimming and for splitting into words: the ASCII
blanks, the four information separators, NEL, the no-break space and the space separators.
Zero-width characters are not blank.
-/

namespace DesignTokens

/-- Is the character white space? -/
def isBlank (c : Char) : Bool :=
  let n := c.toNat
  (0x9 ≤ n && n ≤ 0xD) || (0x1C ≤ n && n ≤ 0x20) || n == 0x85 || n == 0xA0 || n == 0x1680
    || (0x2000 ≤ n && n ≤ 0x200A) || n == 0x2028 || n == 0x2029 || n == 0x202F || n == 0x205F
    || n == 0x3000

/-- Is the character white space around a number?  The information separators are not. -/
def isNumberSpace (c : Char) : Bool :=
  isBlank c && !(0x1C ≤ c.toNat && c.toNat ≤ 0x1F)

namespace Text

/-- Drop what may stand around a number. -/
def trimNumber (t : Text) : Text :=
  ((t.dropWhile isNumberSpace).reverse.dropWhile isNumberSpace).reverse

/-- Drop the white space at the front. -/
def stripLeft (t : Text) : Text :=
  t.dropWhile isBlank

/-- Drop the white space at the end. -/
def stripRight (t : Text) : Text :=
  (t.reverse.dropWhile isBlank).reverse

/-- Drop the white space at both ends. -/
def strip (t : Text) : Text :=
  stripRight (stripLeft t)

/-- The maximal runs of characters that are not white space, in order. -/
def words (t : Text) : List Text :=
  (t.splitOnP isBlank).filter fun w => !w.isEmpty

/-- The words of the text joined with single spaces. -/
def collapse (t : Text) : Text :=
  [' '].intercalate (words t)

/-- A text is blank when it has nothing but white space. -/
def isBlankText (t : Text) : Bool :=
  t.all isBlank

end Text

end DesignTokens
