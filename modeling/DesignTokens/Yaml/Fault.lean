import DesignTokens.Number.Integer
import DesignTokens.Text.Utf8

/-!
# What can be wrong with a YAML document

A document is faulty as a text, as a sequence of tokens, as a tree of nodes, or in the value of
one of its scalars.  The first kinds are faults of the document; the last are faults of a number,
a date or a truth value that a tag asks for.
-/

namespace DesignTokens

namespace Yaml

/-- Why a scalar has no value of the type that it should have. -/
inductive BadScalar
  /-- It is no whole number in a base. -/
  | integer (base : Nat) (text : Text)
  /-- It is a whole number with too many digits. -/
  | integerSize (digits : Nat)
  /-- It is no decimal number. -/
  | decimal (text : Text)
  /-- A part of a number in base sixty is too large for a decimal number. -/
  | decimalSize
  /-- It is no truth value. -/
  | boolean (text : Text)
  /-- A number has no digits. -/
  | noDigits
  /-- It is no date. -/
  | noDate
  /-- A date is asked for, but the node has a list of pairs instead of a text. -/
  | noText
  /-- The year does not exist. -/
  | year (n : Nat)
  /-- The month does not exist. -/
  | month
  /-- The month does not have the day. -/
  | day
  /-- The hour does not exist. -/
  | hour
  /-- The minute does not exist. -/
  | minute
  /-- The second does not exist. -/
  | second
  /-- An escape stands for no character. -/
  | codePoint
  /-- An escape has a number beyond all characters. -/
  | codePointSize
  /-- The distance from universal time is a day or more. -/
  | offset (shown : String)
  deriving Repr, DecidableEq

/-- How many characters of a text that is no number are shown, quotes included. -/
def quotedLimit : Nat :=
  200

/-- The message for a scalar without the value that it should have. -/
def BadScalar.message : BadScalar → String
  | .integer base t =>
      "invalid literal for int() with base " ++ toString base ++ ": "
        ++ String.ofList (t.quoted.take quotedLimit)
  | .integerSize digits =>
      "Exceeds the limit (" ++ toString Integer.digitLimit ++ " digits) for integer string "
        ++ "conversion: value has " ++ toString digits ++ " digits; use "
        ++ "sys.set_int_max_str_digits() to increase the limit"
  | .decimal t => "could not convert string to float: " ++ String.ofList t.quoted
  | .decimalSize => "int too large to convert to float"
  | .boolean t => String.ofList t.quoted
  | .noDigits => "string index out of range"
  | .noDate => "'NoneType' object has no attribute 'groupdict'"
  | .noText => "expected string or bytes-like object, got 'list'"
  | .year n => "year " ++ toString n ++ " is out of range"
  | .month => "month must be in 1..12"
  | .day => "day is out of range for month"
  | .hour => "hour must be in 0..23"
  | .minute => "minute must be in 0..59"
  | .second => "second must be in 0..59"
  | .codePoint => "chr() arg not in range(0x110000)"
  | .codePointSize => "Python int too large to convert to C int"
  | .offset shown =>
      "offset must be a timedelta strictly between -timedelta(hours=24) and "
        ++ "timedelta(hours=24), not " ++ shown ++ "."

/-- Why a text is no document, or a document has no value. -/
inductive Fault
  /-- A character may not stand in a document. -/
  | character
  /-- The text is no text from here on. -/
  | undecoded (e : Utf8.Error)
  /-- The text cannot be cut into tokens. -/
  | token
  /-- The text ends where more of it is asked for. -/
  | ended
  /-- The tokens do not form a tree of nodes. -/
  | tree
  /-- An alias, an anchor or a second document stands where it may not. -/
  | reference
  /-- Collections stand too deep inside each other, or a mapping gives itself as its text. -/
  | depth
  /-- A node does not fit its tag. -/
  | tag
  /-- A scalar has no value of the type that it should have. -/
  | scalar (why : BadScalar)
  deriving Repr, DecidableEq

namespace Fault

/-- Is the document itself at fault, and not the value of a scalar, the encoding or the depth? -/
def isSyntax : Fault → Bool
  | .scalar _ | .undecoded _ | .depth => false
  | _ => true

/-- The message of a fault; where the document is at fault the details are left out. -/
def message : Fault → String
  | .scalar why => why.message
  | .undecoded e => e.message
  | .depth => "maximum recursion depth exceeded"
  | _ => "<yaml error>"

end Fault

end Yaml

end DesignTokens
