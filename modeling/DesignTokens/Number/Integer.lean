import DesignTokens.Text.Blank
import DesignTokens.Text.Word

/-!
# Whole numbers in text

A whole number may have white space around it, a sign, and single underscores between its
digits.  The digits may be those of any script, and in bases above ten the letters follow them.
In bases two, eight and sixteen the mark of the base may stand in front.
-/

namespace DesignTokens

namespace Integer

/-- The value of a digit in a base. -/
def digit? (base : Nat) (c : Char) : Option Nat :=
  let v? : Option Nat :=
    match digitValue? c with
    | some v => some v
    | none =>
        if 'a' ≤ c && c ≤ 'z' then some (c.toNat - 0x61 + 10)
        else if 'A' ≤ c && c ≤ 'Z' then some (c.toNat - 0x41 + 10)
        else none
  v?.filter (· < base)

/-- Why a text is no whole number. -/
inductive Error
  /-- It is not written like one. -/
  | malformed
  /-- It has more decimal digits than are read. -/
  | oversized (digits : Nat)
  deriving Repr, DecidableEq

/-- How many decimal digits are read or written at most. -/
def digitLimit : Nat :=
  4300

/-- The digits at the front of a text, with the underscores among them. -/
def digitRun (base : Nat) (t : Text) : Text :=
  t.takeWhile fun c => c == '_' || (digit? base c).isSome

/-- Does every underscore stand between two other characters? -/
def isWellMarked : Text → Bool
  | [] => true
  | ['_'] => false
  | '_' :: '_' :: _ => false
  | _ :: t => isWellMarked t

/-- The number that digits with underscores among them stand for. -/
def valueOf (base : Nat) (t : Text) : Nat :=
  (t.filterMap (digit? base)).foldl (fun n d => n * base + d) 0

/-- Read at least one digit, with single underscores between the digits.  The number of digits is
limited, except in the bases whose digits are groups of bits; a number with too many digits is
refused for that even where something else follows it. -/
def digits (base : Nat) (t : Text) : Except Error Nat :=
  let run := digitRun base t
  let count := (run.filter (· != '_')).length
  if run.head? = some '_' || !isWellMarked run then .error .malformed
  else if digitLimit < count && !([2, 4, 8, 16, 32].contains base) then .error (.oversized count)
  else if run.isEmpty || run.length < t.length then .error .malformed
  else .ok (valueOf base run)

/-- What follows the mark of a base, if it stands there; one underscore may follow the mark. -/
def behindMark? (base : Nat) : Text → Option Text
  | '0' :: c :: t =>
      let isMark : Bool :=
        (base == 2 && (c == 'b' || c == 'B')) || (base == 8 && (c == 'o' || c == 'O'))
          || (base == 16 && (c == 'x' || c == 'X'))
      if isMark then
        match t with
        | '_' :: u => some u
        | _ => some t
      else none
  | _ => none

/-- Read a number without sign. -/
def unsigned (base : Nat) (t : Text) : Except Error Nat :=
  match behindMark? base t with
  | some u => digits base u
  | none => digits base t

/-- Read a whole number. -/
def read (base : Nat) (t : Text) : Except Error Int :=
  match Text.trimNumber t with
  | '-' :: u => (unsigned base u).map fun n => -(n : Int)
  | '+' :: u => (unsigned base u).map fun n => (n : Int)
  | u => (unsigned base u).map fun n => (n : Int)

/-- The decimal text of a whole number, if it is not too long to be written. -/
def text? (n : Int) : Option Text :=
  if Nat.pow 10 digitLimit ≤ n.natAbs then none else some (toString n).toList

/-- The message for a number that is too long to be written. -/
def unwritableMessage : String :=
  "Exceeds the limit (" ++ toString digitLimit ++ " digits) for integer string conversion; "
    ++ "use sys.set_int_max_str_digits() to increase the limit"

end Integer

end DesignTokens
