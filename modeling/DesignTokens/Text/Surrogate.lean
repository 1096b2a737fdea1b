/-!
# Surrogates

A surrogate is half of a pair by which some encodings write a character.  An escape in a document
may put one into a text by itself, although it is no character.  In a text it is kept as the
private character at a fixed distance from its number, so that a text stays a list of characters.
Those private characters stand for nothing else here, and `number?` tells them from all others.
-/

namespace DesignTokens

namespace Surrogate

/-- How far the character that stands for a surrogate is from the surrogate's number. -/
def distance : Nat :=
  0x100000

/-- Is it the number of a surrogate? -/
def isNumber (n : Nat) : Bool :=
  0xD800 ≤ n && n ≤ 0xDFFF

/-- The character that stands for the surrogate with a number. -/
def char (n : Nat) : Char :=
  Char.ofNat (distance + n)

/-- The number of the surrogate for which a character stands. -/
def number? (c : Char) : Option Nat :=
  if isNumber (c.toNat - distance) then some (c.toNat - distance) else none

/-- Does the character stand for a surrogate? -/
def isSurrogate (c : Char) : Bool :=
  (number? c).isSome

/-- The number of a character, or of the surrogate for which it stands. -/
def codePoint (c : Char) : Nat :=
  (number? c).getD c.toNat

end Surrogate

end DesignTokens
