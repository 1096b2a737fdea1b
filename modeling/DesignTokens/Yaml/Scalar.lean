import DesignTokens.Number.Decimal
import DesignTokens.Number.Integer
import DesignTokens.Yaml.Tag
import DesignTokens.Yaml.Timestamp
import DesignTokens.Yaml.Value

/-!
# The values of scalars

A tag for scalars says how the text of a node is read: as a number in one of several bases, as a
truth value, as a date, as bytes, or as it is.
-/

namespace DesignTokens

namespace Yaml

/-- The text without underscores. -/
def withoutUnderscores (t : Text) : Text :=
  t.filter (· != '_')

/-- A number in a base. -/
def integerIn (base : Nat) (t : Text) : Except BadScalar Int :=
  match Integer.read base t with
  | .ok n => .ok n
  | .error .malformed => .error (.integer base t)
  | .error (.oversized digits) => .error (.integerSize digits)

/-- A whole number without its sign. -/
def unsignedInteger (t : Text) : Except BadScalar Int :=
  match t with
  | [] => .error .noDigits
  | ['0'] => .ok 0
  | '0' :: 'b' :: u => integerIn 2 u
  | '0' :: 'x' :: u => integerIn 16 u
  | '0' :: _ => integerIn 8 t
  | _ =>
      if t.contains ':' then do
        let parts ← (t.splitOn ':').mapM (integerIn 10)
        return parts.foldl (fun n part => n * 60 + part) 0
      else integerIn 10 t

/-- A whole number in base two, eight, ten, sixteen or sixty. -/
def integer (t : Text) : Except BadScalar Int :=
  match withoutUnderscores t with
  | [] => .error .noDigits
  | '-' :: u => (unsignedInteger u).map (- ·)
  | '+' :: u => unsignedInteger u
  | u => unsignedInteger u

/-- A decimal number. -/
def decimalOf (t : Text) : Except BadScalar Float :=
  match Decimal.read? t with
  | some f => .ok f
  | none => .error (.decimal t)

/-- The sum of the parts of a number in base sixty, last part first.  Every part is multiplied by a
whole number, which must not be too large for a floating point number. -/
def sexagesimalSum : (weight : Nat) → List Float → Float → Except BadScalar Float
  | _, [], sum => .ok sum
  | weight, part :: parts, sum =>
      let w := Decimal.scaled weight 0
      if w.isInf then .error .decimalSize
      else sexagesimalSum (weight * 60) parts (sum + part * w)

/-- A decimal number without its sign. -/
def unsignedDecimal (t : Text) : Except BadScalar Float :=
  if t = ".inf".toList then .ok (1.0 / 0.0)
  else if t = ".nan".toList then .ok (0.0 / 0.0)
  else if t.contains ':' then do
    let parts ← (t.splitOn ':').mapM decimalOf
    sexagesimalSum 1 parts.reverse 0.0
  else decimalOf t

/-- A decimal number in base ten or sixty. -/
def decimal (t : Text) : Except BadScalar Float :=
  match Text.lower (withoutUnderscores t) with
  | [] => .error .noDigits
  | '-' :: u => (unsignedDecimal u).map (- ·)
  | '+' :: u => unsignedDecimal u
  | u => unsignedDecimal u

/-- A truth value. -/
def boolean (t : Text) : Except BadScalar Bool :=
  let word := Text.lower t
  if (["yes", "true", "on"].map Text.ofString).contains word then .ok true
  else if (["no", "false", "off"].map Text.ofString).contains word then .ok false
  else .error (.boolean word)

/-- The value of a character in base sixty-four. -/
def base64Value? (c : Char) : Option Nat :=
  if 'A' ≤ c && c ≤ 'Z' then some (c.toNat - 0x41)
  else if 'a' ≤ c && c ≤ 'z' then some (c.toNat - 0x61 + 26)
  else if '0' ≤ c && c ≤ '9' then some (c.toNat - 0x30 + 52)
  else if c == '+' then some 62
  else if c == '/' then some 63
  else none

/-- Bytes in base sixty-four: `count` digits of a group of four were read, their last bits are
`left`, and `pads` padding marks followed.  Other characters are passed over. -/
def base64From? (count left pads : Nat) : Text → Option Bytes
  | [] => if count = 0 then some [] else none
  | c :: cs =>
      if c = '=' then
        if 2 ≤ count && 4 ≤ count + pads + 1 then some []
        else base64From? count left (if 2 ≤ count then pads + 1 else pads) cs
      else
        match base64Value? c with
        | none => base64From? count left pads cs
        | some v =>
            match count with
            | 0 => base64From? 1 v 0 cs
            | 1 => (base64From? 2 (v % 16) 0 cs).map (UInt8.ofNat (left * 4 + v / 16) :: ·)
            | 2 => (base64From? 3 (v % 4) 0 cs).map (UInt8.ofNat (left * 16 + v / 4) :: ·)
            | _ => (base64From? 0 0 0 cs).map (UInt8.ofNat (left * 64 + v) :: ·)

/-- The bytes that a text in base sixty-four stands for. -/
def base64? (t : Text) : Option Bytes :=
  if t.all fun c => c.toNat < 0x80 then base64From? 0 0 0 t else none

/-- Is the tag one for scalars? -/
def Tag.isScalar : Tag → Bool
  | .null | .str | .bool | .int | .float | .binary | .timestamp => true
  | _ => false

/-- The value of a text under a tag; only the tags for scalars give one. -/
def scalarValue (tag : Tag) (t : Text) : Except Fault Value :=
  let checked {α : Type} (e : Except BadScalar α) (f : α → Value) : Except Fault Value :=
    match e with
    | .ok a => .ok (f a)
    | .error why => .error (.scalar why)
  match tag with
  | .null => .ok .null
  | .str => .ok (.text t)
  | .bool => checked (boolean t) .bool
  | .int => checked (integer t) .int
  | .float => checked (decimal t) .float
  | .binary =>
      match base64? t with
      | some bs => .ok (.bytes bs)
      | none => .error .tag
  | .timestamp =>
      checked (timestamp t) fun
        | (d, none) => .date d
        | (d, some c) => .time d c
  | _ => .error .tag

end Yaml

end DesignTokens
