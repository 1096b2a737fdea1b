import DesignTokens.Text.Blank
import DesignTokens.Text.Lower
import DesignTokens.Text.Word

/-!
# Decimal numbers in text

A decimal number is read as the nearest floating point number, and a floating point number is
written with the fewest digits that read back as it.

For writing, a positive number is `m * 2 ^ q`.  The numbers that are read as it lie between the
middles to its two neighbours.  For one digit, two digits, and so on, the two decimals around the
number are tried in exact arithmetic; the first that lies between the middles is written, and of
two the nearer one.
-/

namespace DesignTokens

namespace Decimal

/-! ### Reading -/

/-- The floating point number nearest to `m * 10 ^ e`; beyond the largest one it is infinite. -/
def scaled (m : Nat) (e : Int) : Float :=
  if m = 0 then 0.0
  else
    let size : Int := (Nat.toDigits 10 m).length + e
    if size > 320 then 1.0 / 0.0
    else if size < -340 then 0.0
    else Float.ofScientific m (decide (e < 0)) e.natAbs

/-- A number without sign: digits with a point among them, and an exponent. -/
def unsigned? (t : Text) : Option Float := do
  let values (ds : Text) : Option (List Nat) := ds.mapM digitValue?
  let whole := t.takeWhile isDigitChar
  let t := t.dropWhile isDigitChar
  let (fraction, t) : Text × Text :=
    match t with
    | '.' :: t => (t.takeWhile isDigitChar, t.dropWhile isDigitChar)
    | _ => ([], t)
  if whole.isEmpty && fraction.isEmpty then none
  let m := (← values (whole ++ fraction)).foldl (fun n d => n * 10 + d) 0
  let exponent (negative : Bool) (ds : Text) : Option Int := do
    if ds.isEmpty then none
    let n : Nat := (← values ds).foldl (fun n d => n * 10 + d) 0
    return if negative then -(n : Int) else n
  let e : Int ←
    match t with
    | [] => some 0
    | c :: t =>
        if c == 'e' || c == 'E' then
          match t with
          | '-' :: ds => exponent true ds
          | '+' :: ds => exponent false ds
          | ds => exponent false ds
        else none
  return scaled m (e - fraction.length)

/-- Remove underscores, each of which must stand between two digits. -/
def withoutMarks? : (digitBefore : Bool) → Text → Option Text
  | _, [] => some []
  | digitBefore, '_' :: t =>
      if digitBefore && t.head?.any isDigitChar then withoutMarks? false t else none
  | _, c :: t => (withoutMarks? (isDigitChar c) t).map (c :: ·)

/-- Read a decimal number, or the word for an infinite or an undefined one. -/
def read? (t : Text) : Option Float := do
  let t ← withoutMarks? false (Text.trimNumber t)
  let (negative, t) : Bool × Text :=
    match t with
    | '-' :: t => (true, t)
    | '+' :: t => (false, t)
    | _ => (false, t)
  let word := Text.lower t
  let f ←
    if word = "inf".toList ∨ word = "infinity".toList then some (1.0 / 0.0)
    else if word = "nan".toList then some (0.0 / 0.0)
    else unsigned? t
  return if negative then -f else f

/-! ### Writing -/

/-- A positive number `mantissa * 2 ^ exponent`. -/
structure Binary where
  /-- The whole part of the number, in units of its last place. -/
  mantissa : Nat
  /-- The last place. -/
  exponent : Int
  /-- Is the neighbour below only half as far as the one above? -/
  isNarrow : Bool
  deriving Repr, DecidableEq

/-- How many values the fraction of a floating point number has: fifty-two bits. -/
def fractionSize : Nat :=
  Nat.pow 2 52

/-- How many values the exponent of a floating point number has: eleven bits. -/
def exponentCount : Nat :=
  Nat.pow 2 11

/-- Where the sign of a floating point number stands: above its other bits. -/
def signSize : Nat :=
  Nat.pow 2 63

/-- The parts of a finite floating point number, without its sign. -/
def Binary.ofBits (bits : Nat) : Binary :=
  let fraction : Nat := bits % fractionSize
  let biased : Nat := bits / fractionSize % exponentCount
  if biased = 0 then ⟨fraction, -1074, false⟩
  else ⟨fractionSize + fraction, (biased : Int) - 1075, fraction = 0 && biased > 1⟩

/-- The whole number that a floating point number is, if it is one. -/
def integral? (f : Float) : Option Int :=
  if f.isNaN || f.isInf then none
  else
    let bits := f.toBits.toNat
    let b := Binary.ofBits bits
    let n? : Option Nat :=
      let unit := Nat.pow 2 b.exponent.natAbs
      if 0 ≤ b.exponent then some (b.mantissa * unit)
      else if b.mantissa % unit = 0 then some (b.mantissa / unit)
      else none
    n?.map fun n => if bits / signSize = 1 then -(n : Int) else n

/-- A power of a number whose exponent may be negative, as numerator and denominator. -/
def ratioPow (base : Nat) (e : Int) : Nat × Nat :=
  if 0 ≤ e then (Nat.pow base e.toNat, 1) else (1, Nat.pow base (-e).toNat)

/-- The decimals `d * 10 ^ e` closest to a number on the grid of step `10 ^ e` that are read as
the number, the nearer one first. -/
def hits (b : Binary) (e : Int) : List Nat :=
  let (twoUp, twoDown) := ratioPow 2 (b.exponent - 2)
  let (tenUp, tenDown) := ratioPow 10 e
  let scale := twoUp * tenDown
  let unit := tenUp * twoDown
  let value := 4 * b.mantissa * scale
  let low := (4 * b.mantissa - (if b.isNarrow then 1 else 2)) * scale
  let high := (4 * b.mantissa + 2) * scale
  let isHit (d : Nat) : Bool :=
    if b.mantissa % 2 = 0 then low ≤ d * unit && d * unit ≤ high
    else low < d * unit && d * unit < high
  let d := value / unit
  let pair := if 2 * (value - d * unit) ≤ unit then [d, d + 1] else [d + 1, d]
  pair.filter isHit

/-- The exponent of ten of the first digit of a number. -/
def leading (b : Binary) : Int :=
  let (up, down) := ratioPow 2 b.exponent
  ((Nat.toDigits 10 (b.mantissa * up * Nat.pow 10 400 / down)).length : Int) - 401

/-- The fewest digits that are read back as a positive number, as a whole number and the exponent
of ten of its last place. -/
def shortest (b : Binary) : Nat × Int :=
  let first := leading b
  let tries := (List.range 18).filterMap fun (n : Nat) =>
    (hits b (first - n)).head?.map fun d => (d, first - (n : Int))
  tries.head?.getD (0, 0)

/-- The text of a number given by its digits: positional while the point stands at most sixteen
places behind the first digit or four before it, else with an exponent of at least two digits. -/
def layout (digits : Text) (point : Int) : Text :=
  let zeros (n : Nat) : Text := List.replicate n '0'
  let n := digits.length
  if -4 < point ∧ point ≤ 16 then
    if point ≤ 0 then '0' :: '.' :: (zeros (-point).toNat ++ digits)
    else if point.toNat < n then digits.take point.toNat ++ '.' :: digits.drop point.toNat
    else digits ++ zeros (point.toNat - n) ++ ".0".toList
  else
    let e := point - 1
    let sign := if e < 0 then '-' else '+'
    let shown := Nat.toDigits 10 e.natAbs
    digits.take 1 ++ (if n > 1 then '.' :: digits.drop 1 else [])
      ++ 'e' :: sign :: (zeros (2 - shown.length) ++ shown)

/-- The digits of a whole number without the zeros at its end. -/
def trimmedDigits (d : Nat) : Text :=
  ((Nat.toDigits 10 d).reverse.dropWhile (· == '0')).reverse

/-- The shortest text of a floating point number. -/
def text (f : Float) : Text :=
  if f.isNaN then "nan".toList
  else
    let bits := f.toBits.toNat
    let sign : Text := if bits / signSize = 1 then ['-'] else []
    let body : Text :=
      if f.isInf then "inf".toList
      else if bits % signSize = 0 then "0.0".toList
      else
        let (d, e) := shortest (Binary.ofBits bits)
        layout (trimmedDigits d) ((Nat.toDigits 10 d).length + e)
    sign ++ body

end Decimal

end DesignTokens
