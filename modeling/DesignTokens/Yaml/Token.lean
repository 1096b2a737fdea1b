import DesignTokens.Text.Utf8
import DesignTokens.Text.Word
import DesignTokens.Yaml.Cursor
import DesignTokens.Yaml.Fault

/-!
# Tokens

The tokens of a document, and how those are read that can be told from their first character:
directives, anchors, tags and scalars.  A reader takes the cursor at the token and gives back the
token with the cursor behind it.
-/

namespace DesignTokens

namespace Yaml

/-- An instruction to the reader at the head of a document. -/
inductive Directive
  /-- The version of the format. -/
  | version (major : Nat)
  /-- A short form for tags. -/
  | tag (handle expansion : Text)
  /-- An instruction without meaning. -/
  | other
  deriving Repr, DecidableEq

/-- A token of a document. -/
inductive Token
  | streamEnd
  | directive (d : Directive)
  | documentStart
  | documentEnd
  | blockSequenceStart
  | blockMappingStart
  | blockEnd
  | flowSequenceStart
  | flowSequenceEnd
  | flowMappingStart
  | flowMappingEnd
  | key
  | value
  | blockEntry
  | flowEntry
  | alias (name : Text)
  | anchor (name : Text)
  | tag (handle : Option Text) (suffix : Text)
  | scalar (text : Text) (plain : Bool)
  deriving Repr, DecidableEq

/-- A reader of a part of a document. -/
abbrev Reader (α : Type) := Cursor → Except Fault (α × Cursor)

/-- The fault of a token that cannot go on at a place. -/
def Cursor.fault (k : Cursor) : Fault :=
  if k.rest.isEmpty then .ended else .token

/-- May the character stand in the name of an anchor, a handle or a directive? -/
def isNameLetter (c : Char) : Bool :=
  isAsciiAlnum c || c == '-' || c == '_'

/-- May the character stand in a tag? -/
def isTagChar (c : Char) : Bool :=
  isAsciiAlnum c || "-;/?:@&=+$,_.!~*'()[]%".toList.contains c

/-- The value of a hexadecimal digit. -/
def hexValue? (c : Char) : Option Nat :=
  if '0' ≤ c && c ≤ '9' then some (c.toNat - 0x30)
  else if 'a' ≤ c && c ≤ 'f' then some (c.toNat - 0x61 + 10)
  else if 'A' ≤ c && c ≤ 'F' then some (c.toNat - 0x41 + 10)
  else none

/-- A number of exactly `count` hexadecimal digits. -/
def readHex (count : Nat) : Reader Nat := fun k =>
  match (k.rest.take count).mapM hexValue? with
  | some ds =>
      if ds.length = count then .ok (ds.foldl (fun n d => n * 16 + d) 0, k.passMany count)
      else .error .ended
  | none => .error .token

/-- Spaces, a comment and the end of the line. -/
def readLineEnd : Reader Unit := fun k =>
  let k := k.skipSpaces
  let k := if k.at? '#' then k.skipLine else k
  if endsLine k.peek then .ok ((), k.takeBreak.2) else .error k.fault

/-! ### Tags -/

/-- The bytes of consecutive escapes in a tag. -/
def readEscapedBytes : (fuel : Nat) → Cursor → Except Fault (Bytes × Cursor)
  | 0, k => .ok ([], k)
  | fuel + 1, k =>
      if k.at? '%' then do
        let (n, k) ← readHex 2 k.pass
        let (bytes, k) ← readEscapedBytes fuel k
        return (UInt8.ofNat n :: bytes, k)
      else .ok ([], k)

/-- The text of a tag with its escapes decoded, possibly empty. -/
def readTagChars : (fuel : Nat) → Reader Text
  | 0, k => .ok ([], k)
  | fuel + 1, k => do
      let (plain, k) := k.takeWhile fun c => isTagChar c && c != '%'
      if k.at? '%' then
        let (bytes, k) ← readEscapedBytes k.rest.length k
        k.need 1
        match Utf8.decode bytes with
        | .error _ => throw .token
        | .ok t =>
            let (more, k) ← readTagChars fuel k
            return (plain ++ t ++ more, k)
      else return (plain, k)

/-- The text of a tag; at least one character must stand there. -/
def readTagText : Reader Text := fun k =>
  if k.peek.any isTagChar then readTagChars (k.rest.length + 1) k else .error k.fault

/-- The handle of a tag: a name between exclamation marks, or one such mark before a space. -/
def readTagHandle : Reader Text := fun k =>
  if !k.at? '!' then .error k.fault
  else if k.pass.at? ' ' then .ok (['!'], k.pass)
  else
    let (name, k) := k.pass.takeWhile isNameLetter
    if k.at? '!' then .ok ('!' :: (name ++ ['!']), k.pass) else .error k.fault

/-- A tag: verbatim between angle brackets, a lone exclamation mark, or a suffix with a handle. -/
def readTag : Reader Token := fun k => do
  let (token, k) ←
    if k.peekAt 1 = some '<' then do
      let (suffix, k) ← readTagText (k.passMany 2)
      if k.at? '>' then pure (Token.tag none suffix, k.pass) else throw k.fault
    else if endsToken (k.peekAt 1) then pure (Token.tag none ['!'], k.pass)
    else do
      let word := k.pass.rest.takeWhile fun c => !endsWord (some c)
      if word.contains '!' then
        let (handle, k) ← readTagHandle k
        let (suffix, k) ← readTagText k
        pure (Token.tag (some handle) suffix, k)
      else
        k.pass.need (word.length + 1)
        let (suffix, k) ← readTagText k.pass
        pure (Token.tag (some ['!']) suffix, k)
  if endsWord k.peek then return (token, k) else throw k.fault

/-! ### Anchors and directives -/

/-- The name of an anchor or an alias, behind its indicator. -/
def readAnchorName : Reader Text := fun k =>
  let (name, k) := k.pass.takeWhile isNameLetter
  if name.isEmpty then .error k.fault
  else if endsToken k.peek || k.peek.any "?:,]\x7d%@\x60".toList.contains then .ok (name, k)
  else .error k.fault

/-- A whole number of a version. -/
def readVersionNumber : Reader Nat := fun k => do
  let (digits, k) := k.takeWhile isAsciiDigit
  if digits.isEmpty then throw k.fault
  k.need 1
  match Integer.digits 10 digits with
  | .ok n => return (n, k)
  | .error .malformed => throw .token
  | .error (.oversized count) => throw (.scalar (.integerSize count))

/-- What a directive says, behind its name. -/
def readDirectiveBody (name : Text) : Reader Directive := fun k => do
  if name = "YAML".toList then
    let (major, k) ← readVersionNumber k.skipSpaces
    if !k.at? '.' then throw k.fault
    let (_, k) ← readVersionNumber k.pass
    if endsWord k.peek then return (.version major, k) else throw k.fault
  else if name = "TAG".toList then
    let (handle, k) ← readTagHandle k.skipSpaces
    if !k.at? ' ' then throw k.fault
    let (expansion, k) ← readTagText k.skipSpaces
    if endsWord k.peek then return (.tag handle expansion, k) else throw k.fault
  else return (.other, k.skipLine)

/-- A directive with the rest of its line. -/
def readDirective : Reader Token := fun k => do
  let (name, k) := k.pass.takeWhile isNameLetter
  if name.isEmpty || !endsWord k.peek then throw k.fault
  let (d, k) ← readDirectiveBody name k
  let (_, k) ← readLineEnd k
  return (.directive d, k)

/-! ### Scalars between quotes -/

/-- What a one-letter escape stands for. -/
def escaped? (c : Char) : Option Char :=
  match c with
  | '0' => some '\x00'
  | 'a' => some '\x07'
  | 'b' => some '\x08'
  | 't' => some '\x09'
  | '\t' => some '\x09'
  | 'n' => some '\x0a'
  | 'v' => some '\x0b'
  | 'f' => some '\x0c'
  | 'r' => some '\x0d'
  | 'e' => some '\x1b'
  | ' ' => some ' '
  | '\x22' => some '\x22'
  | '\\' => some '\\'
  | '/' => some '/'
  | 'N' => some '\u0085'
  | '_' => some '\u00a0'
  | 'L' => some '\u2028'
  | 'P' => some '\u2029'
  | _ => none

/-- The number of digits of a numeric escape. -/
def escapeWidth? (c : Char) : Option Nat :=
  match c with
  | 'x' => some 2
  | 'u' => some 4
  | 'U' => some 8
  | _ => none

/-- Empty lines inside a quoted scalar; no document marker may stand at their beginning. -/
def readQuotedBreaks : (fuel : Nat) → Reader Text
  | 0, k => .ok ([], k)
  | fuel + 1, k => do
      if (← k.marker?).isSome then throw .token
      let k := k.skipWhile fun c => c == ' ' || c == '\t'
      if k.peek.any isBreak then
        let (b, k) := k.takeBreak
        let (more, k) ← readQuotedBreaks fuel k
        return (b ++ more, k)
      else return ([], k)

/-- White space inside a quoted scalar: one line break is a space, more are line breaks. -/
def readQuotedBlanks : Reader Text := fun k =>
  let (blanks, k) := k.takeWhile fun c => c == ' ' || c == '\t'
  match k.peek with
  | none => .error .ended
  | some c =>
      if isBreak c then do
        let (b, k) := k.takeBreak
        let (breaks, k) ← readQuotedBreaks (k.rest.length + 1) k
        if b != ['\n'] then return (b ++ breaks, k)
        else if breaks.isEmpty then return ([' '], k)
        else return (breaks, k)
      else .ok (blanks, k)

/-- An escape in a double-quoted scalar, behind its backslash. -/
def readEscape : Reader Text := fun k =>
  match k.peek with
  | none => .error .ended
  | some c =>
      match escaped? c, escapeWidth? c with
      | some e, _ => .ok ([e], k.pass)
      | none, some width => do
          let (n, k) ← readHex width k.pass
          if Surrogate.isNumber n then return ([Surrogate.char n], k)
          else if n < 0x110000 then return ([Char.ofNat n], k)
          else if n < 0x80000000 then throw (.scalar .codePoint)
          else throw (.scalar .codePointSize)
      | none, none =>
          if isBreak c then readQuotedBreaks (k.rest.length + 1) k.takeBreak.2
          else .error .token

/-- The text of a quoted scalar up to its closing quote. -/
def readQuotedText (double : Bool) : (fuel : Nat) → Reader Text
  | 0, _ => .error .token
  | fuel + 1, k =>
      let continue_ (part : Text) (k : Cursor) : Except Fault (Text × Cursor) := do
        let (more, k) ← readQuotedText double fuel k
        return (part ++ more, k)
      match k.peek with
      | none => .error .ended
      | some c =>
          if c == ' ' || c == '\t' || isBreak c then do
            let (part, k) ← readQuotedBlanks k
            continue_ part k
          else if double then
            if c == '\x22' then .ok ([], k)
            else if c == '\\' then do
              let (part, k) ← readEscape k.pass
              continue_ part k
            else continue_ [c] k.pass
          else if c == '\x27' then
            if k.pass.at? '\x27' then continue_ [c] (k.passMany 2) else .ok ([], k)
          else continue_ [c] k.pass

/-- A quoted scalar. -/
def readQuoted (double : Bool) : Reader Token := fun k => do
  let (t, k) ← readQuotedText double (k.rest.length + 1) k.pass
  return (.scalar t false, k.pass)

/-! ### Block scalars -/

/-- How a block scalar treats the line breaks at its end. -/
inductive Chomping
  /-- All are kept. -/
  | keep
  /-- None is kept. -/
  | strip
  /-- The first is kept. -/
  | clip
  deriving Repr, DecidableEq

/-- The chomping that an indicator asks for. -/
def Chomping.ofChar? : Char → Option Chomping
  | '+' => some .keep
  | '-' => some .strip
  | _ => none

/-- The header of a block scalar: chomping and indentation, in either order. -/
def readBlockHeader : Reader (Chomping × Option Nat) := fun k => do
  let chomp? (k : Cursor) : Option Chomping := k.peek.bind Chomping.ofChar?
  let digit? (k : Cursor) : Option Nat :=
    k.peek.bind fun c => if isAsciiDigit c then some (c.toNat - 0x30) else none
  let (header, k) : (Option Chomping × Option Nat) × Cursor :=
    match chomp? k, digit? k with
    | some c, _ =>
        match digit? k.pass with
        | some d => ((some c, some d), k.passMany 2)
        | none => ((some c, none), k.pass)
    | none, some d =>
        match chomp? k.pass with
        | some c => ((some c, some d), k.passMany 2)
        | none => ((none, some d), k.pass)
    | none, none => ((none, none), k)
  if header.2 == some 0 then throw .token
  if !endsWord k.peek then throw k.fault
  let (_, k) ← readLineEnd k
  return ((header.1.getD .clip, header.2), k)

/-- Leading empty lines of a block scalar, with the greatest column that spaces reach. -/
def readIndentation : (fuel : Nat) → (deepest : Nat) → Cursor → Text × Nat × Cursor
  | 0, deepest, k => ([], deepest, k)
  | fuel + 1, deepest, k =>
      if k.at? ' ' then readIndentation fuel (max deepest k.pass.column) k.pass
      else if k.peek.any isBreak then
        let (b, k) := k.takeBreak
        let (more, deepest, k) := readIndentation fuel deepest k
        (b ++ more, deepest, k)
      else ([], deepest, k)

/-- Spaces up to a column. -/
def skipIndent (indent : Nat) (k : Cursor) : Cursor :=
  k.passMany ((k.rest.takeWhile (· == ' ')).length.min (indent - k.column))

/-- Empty lines of a block scalar that is indented to a column. -/
def readBlockBreaks (indent : Nat) : (fuel : Nat) → Cursor → Text × Cursor
  | 0, k => ([], k)
  | fuel + 1, k =>
      let k := skipIndent indent k
      if k.peek.any isBreak then
        let (b, k) := k.takeBreak
        let (more, k) := readBlockBreaks indent fuel k
        (b ++ more, k)
      else ([], k)

/-- The lines of a block scalar.  In the folded style a single break between two lines that do
not begin with white space becomes a space. -/
def readBlockLines (folded : Bool) (chomping : Chomping) (indent : Nat) :
    (fuel : Nat) → (breaks : Text) → Cursor → Text × Cursor
  | 0, _, k => ([], k)
  | fuel + 1, breaks, k =>
      let starts (k : Cursor) : Bool := k.peek.any fun c => c != ' ' && c != '\t'
      let leading := starts k
      let (line, k) := k.takeWhile fun c => !isBreak c
      let (lineBreak, k) := k.takeBreak
      let (after, k) := readBlockBreaks indent (k.rest.length + 1) k
      if k.column = indent && k.peek.isSome then
        let joint :=
          if folded && lineBreak == ['\n'] && leading && starts k then
            if after.isEmpty then [' '] else []
          else lineBreak
        let (more, k) := readBlockLines folded chomping indent fuel after k
        (breaks ++ line ++ joint ++ more, k)
      else
        let tail :=
          match chomping with
          | .keep => lineBreak ++ after
          | .clip => lineBreak
          | .strip => []
        (breaks ++ line ++ tail, k)

/-- A block scalar inside a node that is indented to a column. -/
def readBlockScalar (folded : Bool) (parent : Int) : Reader Token := fun k => do
  let ((chomping, step), k) ← readBlockHeader k.pass
  let least := (max (parent + 1) 1).toNat
  let (breaks, indent, k) : Text × Nat × Cursor :=
    match step with
    | none =>
        let (breaks, deepest, k) := readIndentation k.rest.length 0 k
        (breaks, max least deepest, k)
    | some n =>
        let indent := least + n - 1
        let (breaks, k) := readBlockBreaks indent (k.rest.length + 1) k
        (breaks, indent, k)
  if k.column = indent && k.peek.isSome then
    let (t, k) := readBlockLines folded chomping indent (k.rest.length + 1) breaks k
    return (.scalar t false, k)
  else
    return (.scalar (if chomping = .keep then breaks else []) false, k)

/-! ### Plain scalars -/

/-- What follows a line of a plain scalar. -/
structure PlainGap where
  /-- The white space, as it counts if the scalar goes on. -/
  text : Text
  /-- Was a line break passed? -/
  broken : Bool
  /-- The cursor behind it. -/
  cursor : Cursor

/-- Line breaks and spaces behind the first break of a plain scalar; `none` for the text if a
document marker stands behind one of the breaks. -/
def readPlainBreaks : (fuel : Nat) → Reader (Option Text)
  | 0, k => .ok (some [], k)
  | fuel + 1, k =>
      if k.at? ' ' then readPlainBreaks fuel k.pass
      else if k.peek.any isBreak then do
        let (b, k) := k.takeBreak
        if (← k.marker?).isSome then return (none, k)
        let (more, k) ← readPlainBreaks fuel k
        return (more.map (b ++ ·), k)
      else .ok (some [], k)

/-- White space in a plain scalar: one line break is a space, more are line breaks. -/
def readPlainGap (k : Cursor) : Except Fault PlainGap := do
  let (spaces, k) := k.takeWhile (· == ' ')
  if k.peek.any isBreak then
    let (b, k) := k.takeBreak
    if (← k.marker?).isSome then return ⟨[], true, k⟩
    match ← readPlainBreaks (k.rest.length + 1) k with
    | (none, k) => return ⟨[], true, k⟩
    | (some breaks, k) =>
        if b != ['\n'] then return ⟨b ++ breaks, true, k⟩
        else if breaks.isEmpty then return ⟨[' '], true, k⟩
        else return ⟨breaks, true, k⟩
  else return ⟨spaces, false, k⟩

/-- The length of the part of a plain scalar that stands on one line. -/
def plainLength (inFlow : Bool) : Text → Nat
  | [] => 0
  | c :: cs =>
      let colonEnds : Bool :=
        c == ':' && (endsToken cs.head? || (inFlow && cs.head?.any ",[]\x7b\x7d".toList.contains))
      let flowEnds : Bool := inFlow && ",?[]\x7b\x7d".toList.contains c
      if endsToken (some c) || colonEnds || flowEnds then 0 else plainLength inFlow cs + 1

/-- The part of a plain scalar that stands on one line.  What ends it is asked for: the next
character, and behind a colon one more. -/
def readPlainPart (inFlow : Bool) : Reader Text := fun k => do
  let length := plainLength inFlow k.rest
  let next := k.passMany length
  next.need (if next.at? ':' then 2 else 1)
  return (k.rest.take length, next)

/-- A plain scalar behind its first part: the text, whether its last gap had a line break, and
the cursor. -/
def readPlainParts (inFlow : Bool) (indent : Int) :
    (fuel : Nat) → (gap : Text) → (broken : Bool) → Cursor → Except Fault (Text × Bool × Cursor)
  | 0, _, broken, k => .ok ([], broken, k)
  | fuel + 1, gap, broken, k => do
      if k.at? '#' then return ([], broken, k)
      let (part, behind) ← readPlainPart inFlow k
      if part.isEmpty then return ([], broken, k)
      let next ← readPlainGap behind
      if next.text.isEmpty || next.cursor.at? '#'
          || (!inFlow && (next.cursor.column : Int) < indent) then
        return (gap ++ part, next.broken, next.cursor)
      let (more, broken, k) ← readPlainParts inFlow indent fuel next.text next.broken next.cursor
      return (gap ++ part ++ more, broken, k)

/-- A plain scalar inside a node that is indented to a column, and whether it ended behind a line
break. -/
def readPlain (inFlow : Bool) (parent : Int) (k : Cursor) :
    Except Fault (Token × Bool × Cursor) := do
  let (t, broken, k) ← readPlainParts inFlow (parent + 1) (k.rest.length + 1) [] false k
  return (.scalar t true, broken, k)

end Yaml

end DesignTokens
