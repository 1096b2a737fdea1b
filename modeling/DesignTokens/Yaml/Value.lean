import DesignTokens.Number.Decimal
import DesignTokens.Number.Integer
import DesignTokens.Text.Quoted
import DesignTokens.Text.Utf8
import DesignTokens.Yaml.Timestamp

/-!
# Values

The value of a document: nothing, truth values, numbers, texts, bytes, dates, and collections of
values.  A collection may be a part of itself, so values refer to collections by number and the
document has their contents.  Keys of mappings are compared by value, so that equal numbers of
different types are one key.  A value is shown in two ways: as a text of its own, and inside another
value, where texts are quoted.
-/

namespace DesignTokens

namespace Yaml

/-- The value of a node. -/
inductive Value
  | null
  | bool (b : Bool)
  | int (n : Int)
  | float (f : Float)
  | text (t : Text)
  | bytes (bs : Bytes)
  | date (d : Date)
  | time (d : Date) (c : Clock)
  /-- The collection with a number. -/
  | collection (n : Nat)
  deriving Inhabited

/-- The content of a collection. -/
inductive Collection
  | list (items : List Value)
  /-- A group of a fixed number of values. -/
  | tuple (items : List Value)
  | map (entries : List (Value × Value))
  | set (members : List Value)
  deriving Inhabited

/-- The value of a document, with the collections that it has. -/
structure Document where
  /-- The value. -/
  root : Value
  /-- The collections, by number. -/
  collections : Array Collection
  deriving Inhabited

namespace Value

/-- May the value be a key of a mapping? -/
def isKey : Value → Bool
  | .collection _ => false
  | _ => true

/-- The whole number that a value counts as. -/
def integral? : Value → Option Int
  | .bool b => some (if b then 1 else 0)
  | .int n => some n
  | .float f => Decimal.integral? f
  | _ => none

/-- Are two values one key?  Only values that may be keys are. -/
def sameKey (a b : Value) : Bool :=
  match a, b with
  | .null, .null => true
  | .text s, .text t => s == t
  | .bytes s, .bytes t => s == t
  | .date d, .date e => d == e
  | .time d c, .time e k => Clock.isSameTime d c e k
  | .float f, .float g => f == g
  | a, b =>
      match a.integral?, b.integral? with
      | some m, some n => m == n
      | _, _ => false

/-- The value of a text key. -/
def field? (key : String) : List (Value × Value) → Option Value
  | [] => none
  | (.text t, v) :: es => if t = key.toList then some v else field? key es
  | _ :: es => field? key es

/-! ### Display -/

/-- A byte between quotes. -/
def quotedByte (quote : Char) (b : UInt8) : Text :=
  let c := Char.ofNat b.toNat
  if 0x20 ≤ b.toNat && b.toNat < 0x7F then
    if c == quote || c == '\\' then ['\\', c] else [c]
  else Text.quotedChar quote c

/-- Bytes between quotes, behind the letter that marks them. -/
def quotedBytes (bs : Bytes) : Text :=
  let quote := Text.quoteFor (bs.map fun b => Char.ofNat b.toNat)
  let byte (b : UInt8) : Text :=
    if 0x7F ≤ b.toNat then '\\' :: 'x' :: hexDigits 2 b.toNat else quotedByte quote b
  'b' :: quote :: (bs.flatMap byte ++ [quote])

/-- Parts between commas. -/
def commas (parts : List Text) : Text :=
  ", ".toList.intercalate parts

/-- A number of arguments inside a call. -/
def arguments (ns : List Nat) : Text :=
  commas (ns.map (Nat.toDigits 10))

/-- A date inside another value. -/
def shownDate (d : Date) : Text :=
  "datetime.date(".toList ++ arguments [d.year, d.month, d.day] ++ [')']

/-- A date and time inside another value; zero seconds at the end are left out. -/
def shownTime (d : Date) (c : Clock) : Text :=
  let tail : List Nat :=
    if c.micro ≠ 0 then [c.second, c.micro] else if c.second ≠ 0 then [c.second] else []
  let zone : Text :=
    match c.offset with
    | none => []
    | some s =>
        ", tzinfo=".toList
          ++ if s = 0 then "datetime.timezone.utc".toList
            else "datetime.timezone(".toList ++ (Clock.shownLength s).toList ++ [')']
  "datetime.datetime(".toList
    ++ arguments ([d.year, d.month, d.day, c.hour, c.minute] ++ tail) ++ zone ++ [')']

end Value

namespace Document

/-- The content of a value that is a collection. -/
def content? (d : Document) : Value → Option Collection
  | .collection n => d.collections[n]?
  | _ => none

/-- The entries of a value that is a mapping. -/
def entries? (d : Document) (v : Value) : Option (List (Value × Value)) :=
  match d.content? v with
  | some (.map es) => some es
  | _ => none

/-- Does the value count as nothing: null, false, zero, or an empty text or collection? -/
def isNothing (d : Document) (v : Value) : Bool :=
  match v with
  | .null => true
  | .bool b => !b
  | .int n => n == 0
  | .float f => f == 0.0
  | .text t => t.isEmpty
  | .bytes bs => bs.isEmpty
  | .date _ | .time _ _ => false
  | .collection n =>
      match d.collections[n]? with
      | some (.list vs) | some (.tuple vs) | some (.set vs) => vs.isEmpty
      | some (.map es) => es.isEmpty
      | none => true

/-- How a collection is shown inside itself. -/
def shownAgain : Collection → Text
  | .list _ => "[...]".toList
  | .tuple _ => "(...)".toList
  | .map _ => "\x7b...\x7d".toList
  | .set _ => "set(...)".toList

/-- A value inside another one; `around` are the collections around it, at most `depth` more are
entered.  A number that is too long cannot be shown. -/
def shownWithin (d : Document) : (depth : Nat) → (around : List Nat) → Value → Option Text
  | _, _, .null => some "None".toList
  | _, _, .bool true => some "True".toList
  | _, _, .bool false => some "False".toList
  | _, _, .int n => Integer.text? n
  | _, _, .float f => some (Decimal.text f)
  | _, _, .text t => some t.quoted
  | _, _, .bytes bs => some (Value.quotedBytes bs)
  | _, _, .date e => some (Value.shownDate e)
  | _, _, .time e c => some (Value.shownTime e c)
  | 0, _, .collection _ => none
  | depth + 1, around, .collection n =>
      let parts (vs : List Value) : Option Text :=
        (vs.mapM (shownWithin d depth (n :: around))).map Value.commas
      match d.collections[n]? with
      | none => none
      | some c =>
          if around.contains n then some (shownAgain c)
          else
            match c with
            | .list vs => (parts vs).map fun t => '[' :: (t ++ [']'])
            | .tuple vs => (parts vs).map fun t => '(' :: (t ++ [')'])
            | .set [] => some "set()".toList
            | .set vs => (parts vs).map fun t => '\x7b' :: (t ++ ['\x7d'])
            | .map es =>
                let entry (e : Value × Value) : Option Text := do
                  let k ← shownWithin d depth (n :: around) e.1
                  let v ← shownWithin d depth (n :: around) e.2
                  return k ++ ": ".toList ++ v
                (es.mapM entry).map fun ts => '\x7b' :: (Value.commas ts ++ ['\x7d'])

/-- A value inside another one. -/
def shown (d : Document) (v : Value) : Option Text :=
  d.shownWithin (d.collections.size + 1) [] v

/-- A value as a text of its own. -/
def display (d : Document) (v : Value) : Option Text :=
  match v with
  | .text t => some t
  | .date e => some e.text
  | .time e c => some (e.text ++ ' ' :: c.text)
  | v => d.shown v

/-- The name of the type of a value. -/
def typeName (d : Document) (v : Value) : String :=
  match v with
  | .null => "NoneType"
  | .bool _ => "bool"
  | .int _ => "int"
  | .float _ => "float"
  | .text _ => "str"
  | .bytes _ => "bytes"
  | .date _ => "date"
  | .time _ _ => "datetime"
  | .collection n =>
      match d.collections[n]? with
      | some (.list _) | none => "list"
      | some (.tuple _) => "tuple"
      | some (.map _) => "dict"
      | some (.set _) => "set"

/-- The full name of the type of a value. -/
def fullTypeName (d : Document) (v : Value) : String :=
  match v with
  | .date _ => "datetime.date"
  | .time _ _ => "datetime.datetime"
  | v => d.typeName v

end Document

end Yaml

end DesignTokens
