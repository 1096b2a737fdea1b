import DesignTokens.Text.Basic
import DesignTokens.Yaml.Fault

/-!
# A place in a document

A cursor is what is left of a document, with the line and the column reached.  Besides the line
feed there are three more line breaks; the end of the text counts as a blank where a blank is
asked for.  But where the document goes on behind the text, and cannot be read there, a character
behind the text must not be asked for.
-/

namespace DesignTokens

namespace Yaml

/-- Does the character end a line? -/
def isBreak (c : Char) : Bool :=
  c == '\n' || c == '\u0085' || c == '\u2028' || c == '\u2029'

/-- A line break or the end of the text. -/
def endsLine (c : Option Char) : Bool :=
  c.all isBreak

/-- A space, a line break or the end of the text. -/
def endsWord (c : Option Char) : Bool :=
  c.all fun c => c == ' ' || isBreak c

/-- A space, a tab, a line break or the end of the text. -/
def endsToken (c : Option Char) : Bool :=
  c.all fun c => c == ' ' || c == '\t' || isBreak c

/-- What is left of a document, and where it stands. -/
structure Cursor where
  /-- The text that is left. -/
  rest : Text
  /-- Does the document go on behind the text? -/
  goesOn : Bool
  /-- The number of characters passed. -/
  index : Nat
  /-- The line, counted from zero. -/
  line : Nat
  /-- The column, counted from zero. -/
  column : Nat
  deriving Repr, DecidableEq

namespace Cursor

/-- The beginning of a document. -/
def ofText (t : Text) (goesOn : Bool) : Cursor :=
  ⟨t, goesOn, 0, 0, 0⟩

/-- Ask for some characters: there are as many, or the document ends. -/
def need (k : Cursor) (count : Nat) : Except Fault Unit :=
  if k.goesOn && (k.rest.take count).length < count then .error .ended else .ok ()

/-- The next character. -/
def peek (k : Cursor) : Option Char :=
  k.rest.head?

/-- The character at a distance. -/
def peekAt (k : Cursor) (n : Nat) : Option Char :=
  k.rest[n]?

/-- Is this the next character? -/
def at? (k : Cursor) (c : Char) : Bool :=
  k.peek == some c

/-- Pass one character.  A byte order mark takes no column. -/
def pass (k : Cursor) : Cursor :=
  match k.rest with
  | [] => k
  | c :: cs =>
      let k := { k with rest := cs, index := k.index + 1 }
      if isBreak c then { k with line := k.line + 1, column := 0 }
      else if c == '\ufeff' then k
      else { k with column := k.column + 1 }

/-- Pass some characters. -/
def passMany : (count : Nat) → Cursor → Cursor
  | 0, k => k
  | n + 1, k => passMany n k.pass

/-- The characters up to the first that a property excludes, and the cursor behind them. -/
def takeWhile (p : Char → Bool) (k : Cursor) : Text × Cursor :=
  let t := k.rest.takeWhile p
  (t, passMany t.length k)

/-- The cursor behind the characters that have a property. -/
def skipWhile (p : Char → Bool) (k : Cursor) : Cursor :=
  (k.takeWhile p).2

/-- The cursor behind spaces. -/
def skipSpaces (k : Cursor) : Cursor :=
  k.skipWhile (· == ' ')

/-- The cursor at the end of the line. -/
def skipLine (k : Cursor) : Cursor :=
  k.skipWhile fun c => !isBreak c

/-- Read a line break: the separators stay what they are, the others become a line feed. -/
def takeBreak (k : Cursor) : Text × Cursor :=
  match k.peek with
  | some c =>
      if c == '\u2028' || c == '\u2029' then ([c], k.pass)
      else if isBreak c then (['\n'], k.pass)
      else ([], k)
  | none => ([], k)

/-- The mark of the document marker that stands here: three equal marks and the end of a token. -/
def marker? (k : Cursor) : Except Fault (Option Char) :=
  match k.rest with
  | a :: b :: c :: rest =>
      if a = b ∧ b = c ∧ (a = '-' ∨ a = '.') then do
        k.need 4
        return if endsToken rest.head? then some a else none
      else .ok none
  | _ => do
      k.need 3
      return none

end Cursor

end Yaml

end DesignTokens
