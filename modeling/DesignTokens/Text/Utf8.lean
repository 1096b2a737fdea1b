import DesignTokens.Text.Basic
import DesignTokens.Text.Quoted

/-!
# UTF-8

Files hold bytes; their text is read as UTF-8.  Decoding stops at the first sequence that cannot
be completed, and says where it begins, how many bytes of it were read, and what is wrong with
it.  A stream is decoded in chunks of fixed size: positions then count from the first byte that
was not yet decoded when the chunk was read.

Surrogates have no bytes; a text with one cannot be encoded.
-/

namespace DesignTokens

/-- The content of a file. -/
abbrev Bytes := List UInt8

namespace Utf8

/-- What is wrong with a byte sequence. -/
inductive Fault
  /-- No character begins with the byte. -/
  | start
  /-- A byte that should go on with a character does not. -/
  | continuation
  /-- The bytes end inside a character. -/
  | truncated
  deriving Repr, DecidableEq

/-- The wording of a fault. -/
def Fault.message : Fault → String
  | .start => "invalid start byte"
  | .continuation => "invalid continuation byte"
  | .truncated => "unexpected end of data"

/-- A sequence of bytes that is no character. -/
structure Error where
  /-- The position of the first byte. -/
  position : Nat
  /-- The number of bytes that were read. -/
  length : Nat
  /-- The first byte. -/
  byte : UInt8
  /-- What is wrong. -/
  fault : Fault
  deriving Repr, DecidableEq

/-- The message of a decoding error. -/
def Error.message (e : Error) : String :=
  let place :=
    if e.length ≤ 1 then
      "byte 0x" ++ String.ofList (hexDigits 2 e.byte.toNat)
        ++ " in position " ++ toString e.position
    else
      "bytes in position " ++ toString e.position ++ "-" ++ toString (e.position + e.length - 1)
  "'utf-8' codec can't decode " ++ place ++ ": " ++ e.fault.message

/-- What the first byte of a character says: how many bytes follow, the bounds of the next one,
and the bits of the character that it holds. -/
structure Lead where
  /-- The number of bytes that follow. -/
  tails : Nat
  /-- The least byte that may come next. -/
  low : Nat
  /-- The greatest byte that may come next. -/
  high : Nat
  /-- The bits that the first byte contributes. -/
  bits : Nat

/-- Read the first byte of a character. -/
def Lead.ofByte? (n : Nat) : Option Lead :=
  if n < 0x80 then some ⟨0, 0x80, 0xBF, n⟩
  else if n < 0xC2 then none
  else if n < 0xE0 then some ⟨1, 0x80, 0xBF, n - 0xC0⟩
  else if n = 0xE0 then some ⟨2, 0xA0, 0xBF, 0⟩
  else if n = 0xED then some ⟨2, 0x80, 0x9F, 0xD⟩
  else if n < 0xF0 then some ⟨2, 0x80, 0xBF, n - 0xE0⟩
  else if n = 0xF0 then some ⟨3, 0x90, 0xBF, 0⟩
  else if n < 0xF4 then some ⟨3, 0x80, 0xBF, n - 0xF0⟩
  else if n = 0xF4 then some ⟨3, 0x80, 0x8F, 4⟩
  else none

/-- The outcome of reading the bytes behind the first byte of a character. -/
inductive Tail
  /-- The character is complete; the rest follows it. -/
  | complete (c : Char) (rest : Bytes)
  /-- The bytes end before the character does. -/
  | incomplete
  /-- A byte does not go on with the character; `read` bytes did. -/
  | broken (read : Nat)

/-- Read the bytes behind the first byte: `tails` of them, the next one between `low` and
`high`; `read` bytes were read so far and contributed `bits`. -/
def readTail (low high bits read : Nat) : (tails : Nat) → Bytes → Tail
  | 0, rest => .complete (Char.ofNat bits) rest
  | _ + 1, [] => .incomplete
  | tails + 1, b :: rest =>
      if low ≤ b.toNat && b.toNat ≤ high then
        readTail 0x80 0xBF (bits * 64 + (b.toNat - 0x80)) (read + 1) tails rest
      else .broken read

/-- Reading the continuation bytes of a character leaves no more bytes than there were. -/
theorem readTail_length_le {low high bits read tails : Nat} {bytes rest : Bytes} {c : Char}
    (h : readTail low high bits read tails bytes = .complete c rest) :
    rest.length ≤ bytes.length := by
  induction tails generalizing low high bits read bytes with
  | zero =>
      simp only [readTail, Tail.complete.injEq] at h
      simp [h.2]
  | succ n ih =>
      cases bytes with
      | nil => simp [readTail] at h
      | cons b bs =>
          simp only [readTail] at h
          split at h
          · have := ih h
            simp only [List.length_cons]
            omega
          · simp at h

/-- Are these the first two of the three bytes that a surrogate would have?  No character begins
with them, but that is only said when the third byte is read. -/
def isCutSurrogate : Bytes → Bool
  | [b, c] => b == 0xED && 0xA0 ≤ c.toNat && c.toNat ≤ 0xBF
  | _ => false

/-- Decode bytes, the first of which has the given position: the text of the complete
characters, and the bytes of a last character that is cut short. -/
def decodePart (position : Nat) (bytes : Bytes) : Except Error (Text × Bytes) :=
  match bytes with
  | [] => .ok ([], [])
  | b :: bs =>
      match Lead.ofByte? b.toNat with
      | none => .error ⟨position, 1, b, .start⟩
      | some lead =>
          match h : readTail lead.low lead.high lead.bits 1 lead.tails bs with
          | .incomplete => .ok ([], b :: bs)
          | .broken read =>
              if isCutSurrogate (b :: bs) then .ok ([], b :: bs)
              else .error ⟨position, read, b, .continuation⟩
          | .complete c rest =>
              have := readTail_length_le h
              (decodePart (position + lead.tails + 1) rest).map fun (t, left) => (c :: t, left)
termination_by bytes.length

/-- A last character that is cut short is an error, said to begin at a given position. -/
def whole (position : Nat) : Text × Bytes → Except Error Text
  | (t, []) => .ok t
  | (_, b :: bs) =>
      if isCutSurrogate (b :: bs) then .error ⟨position, 1, b, .continuation⟩
      else .error ⟨position, bs.length + 1, b, .truncated⟩

/-- The text of bytes that are read all at once. -/
def decode (bytes : Bytes) : Except Error Text := do
  let part ← decodePart 0 bytes
  whole (bytes.length - part.2.length) part

/-- The size of the chunks of a stream. -/
def chunkSize : Nat :=
  8192

/-- The bytes in chunks; `fuel` bounds their number. -/
def chunks : (fuel : Nat) → Bytes → List Bytes
  | 0, _ => []
  | fuel + 1, bytes =>
      if bytes.isEmpty then [] else bytes.take chunkSize :: chunks fuel (bytes.drop chunkSize)

/-- What a stream gives: the text up to the first chunk that cannot be decoded, and what is wrong
with that chunk. -/
structure Decoded where
  /-- The text. -/
  text : Text
  /-- What is wrong behind the text, if anything is. -/
  error : Option Error
  deriving Repr, DecidableEq

/-- Decode chunk after chunk; `pending` are the bytes that the chunks before left undecoded. -/
def decodeChunks (pending : Bytes) : List Bytes → Decoded
  | [] =>
      match whole 0 ([], pending) with
      | .ok t => ⟨t, none⟩
      | .error e => ⟨[], some e⟩
  | chunk :: more =>
      match decodePart 0 (pending ++ chunk) with
      | .error e => ⟨[], some e⟩
      | .ok (t, left) =>
          let rest := decodeChunks left more
          ⟨t ++ rest.text, rest.error⟩

/-- What bytes give that are read as a stream. -/
def decodeStream (bytes : Bytes) : Decoded :=
  decodeChunks [] (chunks bytes.length bytes)

/-- The bytes of one character. -/
def encodeChar (c : Char) : Bytes :=
  let n := c.toNat
  let tail (shifted : Nat) : UInt8 := UInt8.ofNat (0x80 + shifted % 64)
  if n < 0x80 then [UInt8.ofNat n]
  else if n < 0x800 then [UInt8.ofNat (0xC0 + n / 64), tail n]
  else if n < 0x10000 then [UInt8.ofNat (0xE0 + n / 4096), tail (n / 64), tail n]
  else [UInt8.ofNat (0xF0 + n / 262144), tail (n / 4096), tail (n / 64), tail n]

/-- The bytes of a text. -/
def encode (t : Text) : Bytes :=
  t.flatMap encodeChar

/-- Surrogates in a row that have no bytes. -/
structure Unencodable where
  /-- The position of the first. -/
  position : Nat
  /-- How many there are. -/
  length : Nat
  /-- The number of the first. -/
  number : Nat
  deriving Repr, DecidableEq

/-- The message for a text that cannot be encoded. -/
def Unencodable.message (e : Unencodable) : String :=
  let place :=
    if e.length ≤ 1 then
      "character '\\u" ++ String.ofList (hexDigits 4 e.number) ++ "' in position "
        ++ toString e.position
    else
      "characters in position " ++ toString e.position ++ "-"
        ++ toString (e.position + e.length - 1)
  "'utf-8' codec can't encode " ++ place ++ ": surrogates not allowed"

/-- The first surrogates that keep a text from being encoded, if there are any that are not
tolerated; the text begins at a position. -/
def unencodableFrom? (tolerated : Nat → Bool) : (position : Nat) → Text → Option Unencodable
  | _, [] => none
  | position, c :: cs =>
      match Surrogate.number? c with
      | none => unencodableFrom? tolerated (position + 1) cs
      | some n =>
          if tolerated n then unencodableFrom? tolerated (position + 1) cs
          else some ⟨position, (cs.takeWhile Surrogate.isSurrogate).length + 1, n⟩

/-- The first surrogates that keep a text from being encoded. -/
def unencodable? (t : Text) : Option Unencodable :=
  unencodableFrom? (fun _ => false) 0 t

end Utf8

/-- The text with every carriage return, alone or before a line feed, made a line feed. -/
def Text.unifyNewlines : Text → Text
  | '\r' :: '\n' :: t => '\n' :: unifyNewlines t
  | '\r' :: t => '\n' :: unifyNewlines t
  | c :: t => c :: unifyNewlines t
  | [] => []

end DesignTokens
