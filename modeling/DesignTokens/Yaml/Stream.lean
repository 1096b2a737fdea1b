import DesignTokens.Yaml.Fault

/-!
# Loading a document

A document is loaded from a stream in pieces, and a piece only when one of its characters is asked
for.  A piece that cannot be decoded, or that has a character which may not stand in a document, is
a fault as a whole.  So what comes before it counts, and the fault is met when the text goes on.
-/

namespace DesignTokens

namespace Yaml

/-- The text of a document up to the first piece with a fault, and that fault. -/
structure Stream where
  /-- The text. -/
  text : Text
  /-- The fault of the piece behind the text; without one the document ends there. -/
  fault : Option Fault
  deriving Repr, DecidableEq

namespace Stream

/-- The number of characters in the first piece. -/
def firstPiece : Nat :=
  8192

/-- The number of characters in every other piece. -/
def nextPiece : Nat :=
  4096

/-- Where the piece with the character at a position begins. -/
def pieceStart (position : Nat) : Nat :=
  if position < firstPiece then 0 else position - position % nextPiece

/-- May the character stand in a document? -/
def isDocumentChar (c : Char) : Bool :=
  let n := c.toNat
  n == 0x9 || n == 0xA || n == 0xD || (0x20 ≤ n && n ≤ 0x7E) || n == 0x85
    || (0xA0 ≤ n && n ≤ 0xD7FF) || (0xE000 ≤ n && n ≤ 0xFFFD) || 0x10000 ≤ n

/-- The text up to the piece with a position, and a fault behind it. -/
def cut (t : Text) (position : Nat) (fault : Fault) : Stream :=
  ⟨t.take (pieceStart position), some fault⟩

/-- The stream of a text, behind which something may be wrong.  In one piece that is noticed before
the characters are looked at. -/
def ofText (t : Text) (error : Option Utf8.Error) : Stream :=
  match t.findIdx? fun c => !isDocumentChar c, error with
  | none, none => ⟨t, none⟩
  | some n, none => cut t n .character
  | none, some e => cut t t.length (.undecoded e)
  | some n, some e =>
      if pieceStart n < pieceStart t.length then cut t n .character
      else cut t t.length (.undecoded e)

/-- The stream of what was decoded, with its line ends unified.  A carriage return before an error
is not known to end a line, and is not counted. -/
def ofDecoded (d : Utf8.Decoded) : Stream :=
  let t := if d.error.isSome && d.text.getLast? = some '\r' then d.text.dropLast else d.text
  ofText (Text.unifyNewlines t) d.error

/-- The stream of the content of a file. -/
def ofBytes (bytes : Bytes) : Stream :=
  ofDecoded (Utf8.decodeStream bytes)

end Stream

end Yaml

end DesignTokens
