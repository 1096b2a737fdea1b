import DesignTokens.Text.Basic
import DesignTokens.Text.Word
import DesignTokens.Yaml.Token

/-!
# Tags

A tag says how a node is to be read.  A plain scalar without a tag gets one from its text: the
spellings of truth values, numbers, nothing, dates and of two special keys are recognised, and
everything else is a string.
-/

namespace DesignTokens

namespace Yaml

/-- The type of a node. -/
inductive Tag
  | null
  | bool
  | int
  | float
  | binary
  | timestamp
  | omap
  | pairs
  | set
  | str
  | seq
  | map
  /-- The key that merges other mappings into its own. -/
  | merge
  /-- The key of a default value. -/
  | value
  /-- A tag without a meaning here. -/
  | other (name : Text)
  deriving Repr, DecidableEq

namespace Tag

/-- The tags with their names in the common namespace. -/
def named : List (String × Tag) :=
  [("null", .null), ("bool", .bool), ("int", .int), ("float", .float), ("binary", .binary),
    ("timestamp", .timestamp), ("omap", .omap), ("pairs", .pairs), ("set", .set), ("str", .str),
    ("seq", .seq), ("map", .map), ("merge", .merge), ("value", .value)]

/-- The tag with a full name. -/
def ofText (t : Text) : Tag :=
  match Text.after? "tag:yaml.org,2002:".toList t with
  | some name => (named.lookup (String.ofList name)).getD (.other t)
  | none => .other t

/-! ### Recognising plain scalars -/

/-- The text without a sign at its front. -/
def unsigned : Text → Text
  | '+' :: t => t
  | '-' :: t => t
  | t => t

/-- Is the character a digit or an underscore? -/
def isDigitMark (c : Char) : Bool :=
  isAsciiDigit c || c == '_'

/-- A digit, then digits and underscores: what follows them. -/
def afterDigits? : Text → Option Text
  | c :: cs => if isAsciiDigit c then some (cs.dropWhile isDigitMark) else none
  | [] => none

/-- Groups of a colon and a number below sixty, at least one: do they reach to the end, or to a
full stop behind which digits and underscores reach to the end? -/
def isSexagesimalTail (withPoint : Bool) (t : Text) : Bool :=
  let whole := t.takeWhile (· != '.')
  let isGroup (g : Text) : Bool :=
    match g with
    | [a] => isAsciiDigit a
    | [a, b] => '0' ≤ a && a ≤ '5' && isAsciiDigit b
    | _ => false
  let groups := whole.splitOn ':'
  let fraction := t.drop whole.length
  groups.head? == some [] && groups.length ≥ 2 && groups.tail.all isGroup
    && (if withPoint then fraction.head? == some '.' && fraction.tail.all isDigitMark
        else fraction.isEmpty)

/-- Is the text an exponent with its sign, or nothing? -/
def isExponent : Text → Bool
  | [] => true
  | e :: s :: digits =>
      (e == 'e' || e == 'E') && (s == '+' || s == '-') && !digits.isEmpty
        && digits.all isAsciiDigit
  | _ => false

/-- Is the text a truth value? -/
def isBool (t : Text) : Bool :=
  (["yes", "Yes", "YES", "no", "No", "NO", "true", "True", "TRUE", "false", "False", "FALSE",
    "on", "On", "ON", "off", "Off", "OFF"].map Text.ofString).contains t

/-- Is the text a decimal number with a point, or one of the three special numbers? -/
def isFloat (t : Text) : Bool :=
  let u := unsigned t
  let special (words : List String) (t : Text) : Bool := (words.map Text.ofString).contains t
  special [".inf", ".Inf", ".INF"] u || special [".nan", ".NaN", ".NAN"] t
    || (match t with
      | '.' :: c :: cs => isAsciiDigit c && isExponent (cs.dropWhile isDigitMark)
      | _ => false)
    || (match afterDigits? u with
      | some ('.' :: rest) => isExponent (rest.dropWhile isDigitMark)
      | some rest => isSexagesimalTail true rest
      | none => false)

/-- Is the text a whole number, in base two, eight, ten, sixteen or sixty? -/
def isInt (t : Text) : Bool :=
  let many (p : Char → Bool) (t : Text) : Bool := !t.isEmpty && t.all fun c => p c || c == '_'
  match unsigned t with
  | ['0'] => true
  | '0' :: 'b' :: t => many (fun c => c == '0' || c == '1') t
  | '0' :: 'x' :: t => many (fun c => (hexValue? c).isSome) t
  | '0' :: t => many (fun c => '0' ≤ c && c ≤ '7') t
  | c :: t =>
      isAsciiDigit c && (t.all isDigitMark || isSexagesimalTail false (t.dropWhile isDigitMark))
  | [] => false

/-- Is the text one of the spellings of nothing? -/
def isNull (t : Text) : Bool :=
  (["~", "null", "Null", "NULL", ""].map Text.ofString).contains t

/-- At least `least` and at most `most` digits at the front of a text: what follows as many as
there are. -/
def afterCount? (least most : Nat) (t : Text) : Option Text :=
  let n := ((t.take most).takeWhile isAsciiDigit).length
  if least ≤ n then some (t.drop n) else none

/-- Is the text a distance from universal time, or nothing? -/
def isZone (t : Text) : Bool :=
  match t with
  | [] => true
  | ['Z'] => true
  | s :: t =>
      (s == '+' || s == '-')
        && (match afterCount? 1 2 t with
          | some [] => true
          | some (':' :: t) => afterCount? 2 2 t == some []
          | _ => false)

/-- Is the text a time of day with what may follow it? -/
def isTimeOfDay (t : Text) : Bool :=
  let time? : Option Text := do
    let t ← afterCount? 1 2 t
    let t ← Text.after? [':'] t
    let t ← afterCount? 2 2 t
    let t ← Text.after? [':'] t
    let t ← afterCount? 2 2 t
    return match t with
      | '.' :: t => t.dropWhile isAsciiDigit
      | t => t
  match time? with
  | some [] => true
  | some t => t.dropWhile (fun c => c == ' ' || c == '\t') != [] &&
      isZone (t.dropWhile fun c => c == ' ' || c == '\t')
  | none => false

/-- Is the text a date, or a date and a time? -/
def isTimestamp (t : Text) : Bool :=
  let date? (least : Nat) : Option Text := do
    let t ← afterCount? 4 4 t
    let t ← Text.after? ['-'] t
    let t ← afterCount? least 2 t
    let t ← Text.after? ['-'] t
    afterCount? least 2 t
  date? 2 == some []
    || (match date? 1 with
      | some (c :: t) =>
          ((c == 'T' || c == 't') && isTimeOfDay t)
            || ((c == ' ' || c == '\t')
              && isTimeOfDay (t.dropWhile fun c => c == ' ' || c == '\t'))
      | _ => false)

/-- The tag that the text of a plain scalar suggests.  A line feed at the end does not count, but a
text that begins with one is a string. -/
def ofPlain (t : Text) : Tag :=
  let t := if t.length > 1 ∧ t.getLast? = some '\n' then t.dropLast else t
  if isBool t then .bool
  else if isFloat t then .float
  else if isInt t then .int
  else if t = ['<', '<'] then .merge
  else if isNull t then .null
  else if isTimestamp t then .timestamp
  else if t = ['='] then .value
  else if t = ['!'] ∨ t = ['&'] ∨ t = ['*'] then .other t
  else .str

end Tag

end Yaml

end DesignTokens
