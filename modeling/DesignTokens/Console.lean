import DesignTokens.Text.Basic

/-!
# Console lines

The program speaks in lines of a few kinds: headers, plain lines, lines with a coloured mark in
front, dim lines, and rows of two columns.  Colour is written with escape sequences, and only where
it is on.
-/

namespace DesignTokens

/-- A way to set off a text. -/
inductive Tint
  | reset
  | red
  | green
  | yellow
  | cyan
  | bold
  | dim
  deriving Repr, DecidableEq

namespace Tint

/-- The number of a tint in an escape sequence. -/
def code : Tint → Nat
  | .reset => 0
  | .red => 91
  | .green => 92
  | .yellow => 93
  | .cyan => 96
  | .bold => 1
  | .dim => 2

/-- The escape sequence that turns a tint on. -/
def sequence (t : Tint) : String :=
  "\x1b[" ++ toString t.code ++ "m"

/-- The tint with a name. -/
def ofName? : String → Option Tint
  | "reset" => some .reset
  | "red" => some .red
  | "green" => some .green
  | "yellow" => some .yellow
  | "cyan" => some .cyan
  | "bold" => some .bold
  | "dim" => some .dim
  | _ => none

end Tint

/-- A text with its tint turned on and all tints turned off behind it, where colour is on.  Without
a tint nothing is turned on. -/
def colorize (color : Bool) (tint : Option Tint) (s : String) : String :=
  if color then ((tint.map Tint.sequence).getD "") ++ s ++ Tint.reset.sequence else s

/-- The width of the left column of a row when nothing else is said. -/
def usualColumnWidth : Nat :=
  36

/-- A line on the console. -/
inductive ConsoleLine
  /-- The beginning of a section. -/
  | header (message : String)
  /-- A plain line. -/
  | info (message : String)
  /-- Something succeeded. -/
  | success (message : String)
  /-- Something is doubtful. -/
  | warning (message : String)
  /-- Something failed. -/
  | error (message : String)
  /-- Something of less interest. -/
  | dim (message : String)
  /-- Two columns, the left one at least `width` wide. -/
  | row (left right : String) (width : Nat)
  deriving Repr, DecidableEq

namespace ConsoleLine

/-- A row of two columns of the usual width. -/
def usualRow (left right : String) : ConsoleLine :=
  .row left right usualColumnWidth

/-- The text of a line, without its end. -/
def text (color : Bool) : ConsoleLine → String
  | .header m =>
      let rule := colorize color (some .cyan) "==="
      "\n" ++ rule ++ " " ++ colorize color (some .bold) m ++ " " ++ rule
  | .info m => "  " ++ m
  | .success m => "  " ++ colorize color (some .green) "[OK]" ++ " " ++ m
  | .warning m => "  " ++ colorize color (some .yellow) "[WARN]" ++ " " ++ m
  | .error m => "  " ++ colorize color (some .red) "[ERROR]" ++ " " ++ m
  | .dim m => "  " ++ colorize color (some .dim) m
  | .row left right width =>
      "  " ++ String.ofList (Text.padRight width left.toList) ++ " " ++ right

/-- The lines as they are printed. -/
def printed (color : Bool) (lines : List ConsoleLine) : String :=
  String.join (lines.map fun l => l.text color ++ "\n")

end ConsoleLine

/-- Why a number is no width of a column. -/
inductive WidthError
  /-- It is negative. -/
  | negative
  /-- It is beyond sixty-four bits. -/
  | oversized
  deriving Repr, DecidableEq

/-- The message for a number that is no width of a column. -/
def WidthError.message : WidthError → String
  | .negative => "Sign not allowed in string format specifier"
  | .oversized => "Too many decimal digits in format string"

/-- The greatest width of a column. -/
def widthLimit : Nat :=
  9223372036854775807

/-- The width of a column. -/
def columnWidth (n : Int) : Except WidthError Nat :=
  if widthLimit < n.natAbs then .error .oversized
  else if n < 0 then .error .negative
  else .ok n.toNat

end DesignTokens
