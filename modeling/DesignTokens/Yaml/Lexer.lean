import DesignTokens.Yaml.Stream
import DesignTokens.Yaml.Token

/-!
# Cutting a document into tokens

The lexer goes through a document from token to token.  It keeps the columns of the open block
collections, the number of open flow collections, and the tokens that may turn out to be keys: a
key of a mapping is only known when its colon is reached, so the tokens that open the mapping are
inserted in front of it afterwards.  Until then that token, and those behind it, are withheld.

The outcome is the list of the tokens that can be relied on and, if the document cannot be cut
any further, the fault that stands behind them.
-/

namespace DesignTokens

namespace Yaml

/-- A token that may turn out to be a key. -/
structure KeyCandidate where
  /-- The number of flow collections open around it. -/
  level : Int
  /-- The number of tokens before it. -/
  number : Nat
  /-- Must it be a key? -/
  required : Bool
  /-- The position of its first character. -/
  index : Nat
  /-- Its line. -/
  line : Nat
  /-- Its column. -/
  column : Nat

/-- The state of the lexer between two tokens. -/
structure Lexer where
  /-- Where it stands. -/
  cursor : Cursor
  /-- The tokens so far, the last one first. -/
  tokens : List Token
  /-- The number of tokens so far. -/
  count : Nat
  /-- The number of open flow collections; closing too many makes it negative. -/
  flowLevel : Int
  /-- The column of the innermost block collection. -/
  indent : Int
  /-- The columns of the block collections around it, innermost first. -/
  outer : List Int
  /-- May the next token be a key? -/
  keyAllowed : Bool
  /-- The tokens that may be keys, at most one for each flow level. -/
  candidates : List KeyCandidate
  /-- Has the end of the document been reached? -/
  done : Bool

namespace Lexer

/-- The lexer at the beginning of a document. -/
def ofText (t : Text) (goesOn : Bool) : Lexer :=
  ⟨Cursor.ofText t goesOn, [], 0, 0, -1, [], true, [], false⟩

/-- Is a flow collection open? -/
def inFlow (x : Lexer) : Bool :=
  x.flowLevel != 0

/-- Add a token at the end. -/
def push (x : Lexer) (t : Token) : Lexer :=
  { x with tokens := t :: x.tokens, count := x.count + 1 }

/-- Insert a token behind the first `n`. -/
def insertAt (x : Lexer) (n : Nat) (t : Token) : Lexer :=
  let (behind, before) := x.tokens.splitAt (x.count - n)
  { x with tokens := behind ++ t :: before, count := x.count + 1 }

/-- Pass some characters and add a token. -/
def pushPassing (x : Lexer) (count : Nat) (t : Token) : Lexer :=
  { x.push t with cursor := x.cursor.passMany count }

/-! ### Columns of block collections -/

/-- Close block collections, innermost first, while they are indented deeper than a column. -/
def unwindThrough (column : Int) : (outer : List Int) → Lexer → Lexer
  | [], x => x
  | indent :: outer, x =>
      if x.indent ≤ column then x
      else unwindThrough column outer { x.push .blockEnd with indent, outer }

/-- Close the block collections that are indented deeper than a column. -/
def unwind (x : Lexer) (column : Int) : Lexer :=
  if x.inFlow then x else unwindThrough column x.outer x

/-- Open a block collection at a column, if it is indented deeper than the innermost one. -/
def openBlock? (x : Lexer) (column : Nat) : Option Lexer :=
  if x.indent < column then some { x with indent := column, outer := x.indent :: x.outer }
  else none

/-! ### Key candidates -/

/-- Drop the candidates that can no longer be keys: a key and its colon stand on one line, and
not too far apart. -/
def dropStale (x : Lexer) : Except Fault Lexer :=
  let isStale (c : KeyCandidate) : Bool :=
    c.line != x.cursor.line || x.cursor.index > c.index + 1024
  if x.candidates.any fun c => isStale c && c.required then .error .token
  else .ok { x with candidates := x.candidates.filter fun c => !isStale c }

/-- Drop the candidate of the current flow level. -/
def dropCandidate (x : Lexer) : Except Fault Lexer :=
  if x.candidates.any fun c => c.level == x.flowLevel && c.required then .error .token
  else .ok { x with candidates := x.candidates.filter fun c => c.level != x.flowLevel }

/-- Make the next token a candidate, if a key may stand here. -/
def addCandidate (x : Lexer) : Except Fault Lexer :=
  if x.keyAllowed then do
    let required := !x.inFlow && x.indent == x.cursor.column
    let x ← x.dropCandidate
    let c : KeyCandidate :=
      ⟨x.flowLevel, x.count, required, x.cursor.index, x.cursor.line, x.cursor.column⟩
    return { x with candidates := c :: x.candidates }
  else .ok x

/-- The number of tokens before the first candidate. -/
def settled (x : Lexer) : Nat :=
  x.candidates.foldl (fun n c => min n c.number) x.count

/-! ### Tokens -/

/-- Pass white space, comments and line breaks.  Behind a line break a key may stand. -/
def skipBlanks : (fuel : Nat) → Lexer → Lexer
  | 0, x => x
  | fuel + 1, x =>
      let k := x.cursor.skipSpaces
      let k := if k.at? '#' then k.skipLine else k
      if k.peek.any isBreak then
        skipBlanks fuel
          { x with cursor := k.takeBreak.2, keyAllowed := x.keyAllowed || !x.inFlow }
      else { x with cursor := k }

/-- Pass a byte order mark at the beginning, and what stands before the next token. -/
def toNextToken (x : Lexer) : Lexer :=
  let k := if x.cursor.index = 0 && x.cursor.at? '\ufeff' then x.cursor.pass else x.cursor
  skipBlanks (k.rest.length + 1) { x with cursor := k }

/-- The end of the document. -/
def streamEnd (x : Lexer) : Except Fault Lexer := do
  let x ← (x.unwind (-1)).dropCandidate
  return { x.push .streamEnd with keyAllowed := false, candidates := [], done := true }

/-- A directive or a document marker: all block collections end. -/
def atMargin (x : Lexer) (read : Reader Token) : Except Fault Lexer := do
  let x ← (x.unwind (-1)).dropCandidate
  let (t, k) ← read x.cursor
  return { x.push t with cursor := k, keyAllowed := false }

/-- The bracket or brace that opens a flow collection. -/
def openFlow (x : Lexer) (t : Token) : Except Fault Lexer := do
  let x ← x.addCandidate
  return { x.pushPassing 1 t with flowLevel := x.flowLevel + 1, keyAllowed := true }

/-- The bracket or brace that closes a flow collection. -/
def closeFlow (x : Lexer) (t : Token) : Except Fault Lexer := do
  let x ← x.dropCandidate
  return { x.pushPassing 1 t with flowLevel := x.flowLevel - 1, keyAllowed := false }

/-- The comma between the entries of a flow collection. -/
def flowEntry (x : Lexer) : Except Fault Lexer := do
  let x ← x.dropCandidate
  return { x.pushPassing 1 .flowEntry with keyAllowed := true }

/-- Open a block collection here, where one may begin. -/
def beginBlock (x : Lexer) (t : Token) : Except Fault Lexer :=
  if x.inFlow then .ok x
  else if !x.keyAllowed then .error .token
  else .ok (((x.openBlock? x.cursor.column).map fun y => y.push t).getD x)

/-- The dash before an entry of a block sequence. -/
def blockEntry (x : Lexer) : Except Fault Lexer := do
  let x ← x.beginBlock .blockSequenceStart
  let x ← x.dropCandidate
  return { x.pushPassing 1 .blockEntry with keyAllowed := true }

/-- The question mark before a key. -/
def explicitKey (x : Lexer) : Except Fault Lexer := do
  let x ← x.beginBlock .blockMappingStart
  let x ← x.dropCandidate
  return { x.pushPassing 1 .key with keyAllowed := !x.inFlow }

/-- The colon before a value.  The candidate of this flow level turns out to be the key. -/
def valueMark (x : Lexer) : Except Fault Lexer := do
  match x.candidates.find? fun c => c.level == x.flowLevel with
  | some c =>
      let x := { x with candidates := x.candidates.filter fun c => c.level != x.flowLevel }
      let x := x.insertAt c.number .key
      let x :=
        if x.inFlow then x
        else ((x.openBlock? c.column).map fun y => y.insertAt c.number .blockMappingStart).getD x
      return { x.pushPassing 1 .value with keyAllowed := false }
  | none =>
      let x ← x.beginBlock .blockMappingStart
      let x ← x.dropCandidate
      return { x.pushPassing 1 .value with keyAllowed := !x.inFlow }

/-- A token that may be a key: an alias, an anchor, a tag or a quoted scalar. -/
def keyLike (x : Lexer) (read : Reader Token) : Except Fault Lexer := do
  let x ← x.addCandidate
  let (t, k) ← read x.cursor
  return { x.push t with cursor := k, keyAllowed := false }

/-- A block scalar. -/
def blockScalar (x : Lexer) (folded : Bool) : Except Fault Lexer := do
  let x ← x.dropCandidate
  let (t, k) ← readBlockScalar folded x.indent x.cursor
  return { x.push t with cursor := k, keyAllowed := true }

/-- A plain scalar. -/
def plainScalar (x : Lexer) : Except Fault Lexer := do
  let x ← x.addCandidate
  let (t, broken, k) ← readPlain x.inFlow x.indent x.cursor
  return { x.push t with cursor := k, keyAllowed := broken }

/-- A token that one character begins, whatever follows it. -/
def plainTokenAt? (x : Lexer) (c : Char) : Option (Except Fault Lexer) :=
  match c with
  | '[' => some (x.openFlow .flowSequenceStart)
  | '\x7b' => some (x.openFlow .flowMappingStart)
  | ']' => some (x.closeFlow .flowSequenceEnd)
  | '\x7d' => some (x.closeFlow .flowMappingEnd)
  | ',' => some x.flowEntry
  | '*' => some (x.keyLike fun k => (readAnchorName k).map fun (name, k) => (.alias name, k))
  | '&' => some (x.keyLike fun k => (readAnchorName k).map fun (name, k) => (.anchor name, k))
  | '!' => some (x.keyLike readTag)
  | '\x27' => some (x.keyLike (readQuoted false))
  | '\x22' => some (x.keyLike (readQuoted true))
  | '?' => if x.inFlow then some x.explicitKey else none
  | ':' => if x.inFlow then some x.valueMark else none
  | '|' => if x.inFlow then none else some (x.blockScalar false)
  | '>' => if x.inFlow then none else some (x.blockScalar true)
  | '-' | '%' | '@' | '\x60' | '\t' => none
  | _ => some x.plainScalar

/-- The token that begins with a character and depends on the next one. -/
def markedTokenAt (x : Lexer) (c : Char) : Except Fault Lexer := do
  x.cursor.need 2
  match c, endsToken (x.cursor.peekAt 1) with
  | '-', true => x.blockEntry
  | '?', true => x.explicitKey
  | ':', true => x.valueMark
  | '-', false | '?', false | ':', false => x.plainScalar
  | _, _ => throw .token

/-- The token that begins with a character, at the cursor. -/
def tokenAt (x : Lexer) (c : Char) : Except Fault Lexer := do
  let atMarker : Bool := x.cursor.column = 0 && (c == '-' || c == '.')
  match ← if atMarker then x.cursor.marker? else pure none with
  | some '-' => x.atMargin fun k => .ok (.documentStart, k.passMany 3)
  | some _ => x.atMargin fun k => .ok (.documentEnd, k.passMany 3)
  | none =>
      if c = '%' ∧ x.cursor.column = 0 then x.atMargin readDirective
      else (x.plainTokenAt? c).getD (x.markedTokenAt c)

/-- Go on by one token, and by the tokens that have to stand before it. -/
def step (x : Lexer) : Except Fault Lexer := do
  let x := x.toNextToken
  x.cursor.need 1
  let x ← x.dropStale
  let x := x.unwind x.cursor.column
  let x ← match x.cursor.peek with
    | none => x.streamEnd
    | some c => x.tokenAt c
  x.cursor.need 1
  x.dropStale

/-- The tokens from a state on, and the fault that stands behind them. -/
def run : (fuel : Nat) → Lexer → List Token × Option Fault
  | 0, x => (x.tokens.reverse, none)
  | fuel + 1, x =>
      match x.step with
      | .error e => ((x.tokens.drop (x.count - x.settled)).reverse, some e)
      | .ok y => if y.done then (y.tokens.reverse, none) else run fuel y

end Lexer

/-- The tokens of a document that can be relied on, and the fault that stands behind them.  Where
the document goes on behind a fault of its text, whatever asks for more meets that fault. -/
def Stream.tokens (s : Stream) : List Token × Option Fault :=
  let (tokens, fault) := Lexer.run (s.text.length + 1) (Lexer.ofText s.text s.fault.isSome)
  (tokens, if fault = some .ended then s.fault.or fault else fault)

end Yaml

end DesignTokens
