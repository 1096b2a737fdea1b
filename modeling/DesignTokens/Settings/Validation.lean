import DesignTokens.Settings.Descriptor
import DesignTokens.Settings.Violation

/-!
# Reading descriptors and settings from values

Values are read leniently: truth values may be spelled as words or numbers, whole numbers as
texts or as numbers without a fraction.  Unknown fields are passed over.  All violations are
reported together, in the order of the fields; only a text with a surrogate, where a message would
have to quote it, ends the reading at once.
-/

namespace DesignTokens

/-- Why a value was not read. -/
inductive Refusal
  /-- It violates rules. -/
  | violations (vs : List Violation)
  /-- A message about it cannot be encoded. -/
  | unencodable (e : Utf8.Unencodable)

/-- A value that was read, or why it was not. -/
abbrev Checked (α : Type) := Except Refusal α

namespace Checked

/-- A value that violates a rule. -/
def refuse {α : Type} (location : List Locator) (rule : Requirement) (v : Yaml.Value) : Checked α :=
  .error (.violations [⟨location, rule, v⟩])

/-- Apply a function; the violations of both sides are reported. -/
def both {α β : Type} (f : Checked (α → β)) (a : Checked α) : Checked β :=
  match f, a with
  | .ok f, .ok a => .ok (f a)
  | .error (.unencodable e), _ => .error (.unencodable e)
  | _, .error (.unencodable e) => .error (.unencodable e)
  | .error (.violations vs), .ok _ => .error (.violations vs)
  | .ok _, .error (.violations ws) => .error (.violations ws)
  | .error (.violations vs), .error (.violations ws) => .error (.violations (vs ++ ws))

/-- Read all elements; all violations are reported. -/
def all {α β : Type} (read : α → Checked β) : List α → Checked (List β)
  | [] => .ok []
  | a :: as => both ((read a).map fun b bs => b :: bs) (all read as)

end Checked

namespace Yaml.Value

open Checked

/-- The words for truth values. -/
def truthWords : List (Text × Bool) :=
  [ ("0".toList, false), ("off".toList, false), ("f".toList, false), ("false".toList, false),
    ("n".toList, false), ("no".toList, false), ("1".toList, true), ("on".toList, true),
    ("t".toList, true), ("true".toList, true), ("y".toList, true), ("yes".toList, true) ]

/-- Does a number fit into sixty-four bits? -/
def fits (n : Int) : Bool :=
  -9223372036854775808 ≤ n && n ≤ 9223372036854775807

/-- The truth value that a text stands for; the spelling is not case-sensitive. -/
def truthOf? (t : Text) : Option Bool :=
  truthWords.lookup (t.map Char.toLower)

/-- The number of a float that is whole and fits into sixty-four bits, the least such number
excepted. -/
def wholeOf? (f : Float) : Option Int :=
  (Decimal.integral? f).filter fun n => fits n && n != -9223372036854775808

/-- Read a truth value. -/
def toBool (loc : List Locator) (v : Value) : Checked Bool :=
  let ofInt (n : Int) : Checked Bool :=
    if n = 0 then .ok false else if n = 1 then .ok true else refuse loc .readableTruth v
  match v with
  | .bool b => .ok b
  | .int n => if fits n then ofInt n else refuse loc .truth v
  | .float f =>
      match wholeOf? f with
      | some n => ofInt n
      | none => refuse loc .truth v
  | .bytes bs =>
      match (Utf8.decode bs).toOption.bind truthOf? with
      | some b => .ok b
      | none => refuse loc .readableTruth v
  | .text t =>
      if t.any Surrogate.isSurrogate then refuse loc .readableText v
      else
        match truthOf? t with
        | some b => .ok b
        | none => refuse loc .readableTruth v
  | _ => refuse loc .truth v

/-- The text from the first digit on that counts, behind zeros and underscores; the last of them
was `last`.  If nothing counts the last one does, and so does the one before a point. -/
def behindZeros? (last : Char) : Text → Option Text
  | [] => some [last]
  | c :: cs =>
      if c == '0' || c == '_' then behindZeros? c cs
      else if isAsciiDigit c || c == '-' then some (c :: cs)
      else if c == '.' then some (last :: c :: cs)
      else none

/-- The text without zeros at its front.  A zero may even stand in front of a minus sign. -/
def withoutZeros? : Text → Option Text
  | [] => none
  | c :: cs =>
      if c == '0' then behindZeros? c cs
      else if isAsciiDigit c || c == '-' then some (c :: cs)
      else none

/-- The text without a fraction of zeros at its end. -/
def withoutZeroFraction (t : Text) : Text :=
  match Text.cutFirst '.' t with
  | (whole, some (c :: cs)) => if (c :: cs).all (· == '0') then whole else t
  | _ => t

/-- The text without underscores, which must not stand at its ends or beside each other. -/
def withoutMarks (t : Text) : Text :=
  if Integer.isWellMarked t && t.head? != some '_' then t.filter (· != '_') else t

/-- The text of a whole number without what is allowed around and between its digits. -/
def bareNumber? (t : Text) : Option Text := do
  let t ← match Text.trimNumber t with
    | '+' :: '-' :: _ => none
    | '+' :: u => some u
    | u => some u
  let t := withoutMarks (withoutZeroFraction (← withoutZeros? t))
  let digits := if t.head? = some '-' then t.tail else t
  if digits.isEmpty || !digits.all isAsciiDigit then none else some t

/-- Read a whole number from a text. -/
def textToInt (loc : List Locator) (v : Value) (t : Text) : Checked Int :=
  match bareNumber? t with
  | none => refuse loc .readableInteger v
  | some t =>
      if Integer.digitLimit < t.length then refuse loc .integerSize v
      else if t.head? = some '-' then .ok (-(Integer.valueOf 10 t : Int))
      else .ok (Integer.valueOf 10 t)

/-- Read a whole number. -/
def toInt (loc : List Locator) (v : Value) : Checked Int :=
  match v with
  | .int n => .ok n
  | .bool b => .ok (if b then 1 else 0)
  | .float f =>
      if f.isNaN || f.isInf then refuse loc .finiteNumber v
      else if (Decimal.integral? f).isNone then refuse loc .wholeNumber v
      else
        match wholeOf? f with
        | some n => .ok n
        | none => refuse loc .integerSize v
  | .text t =>
      if t.any Surrogate.isSurrogate then refuse loc .readableText v else textToInt loc v t
  | .bytes bs =>
      match Utf8.decode bs with
      | .ok t => textToInt loc v t
      | .error _ => refuse loc .readableInteger v
  | _ => refuse loc .integer v

/-- Read a text. -/
def toText (loc : List Locator) (v : Value) : Checked String :=
  match v with
  | .text t => .ok (String.ofList t)
  | .bytes bs =>
      match Utf8.decode bs with
      | .ok t => .ok (String.ofList t)
      | .error _ => refuse loc .readableText v
  | _ => refuse loc .text v

/-- Read nothing, or something. -/
def toOption {α : Type} (read : List Locator → Value → Checked α) (loc : List Locator)
    (v : Value) : Checked (Option α) :=
  match v with
  | .null => .ok none
  | v => (read loc v).map some

/-- Read a kind of source from its name. -/
def textToKind (loc : List Locator) (v : Value) (t : Text) : Checked SourceKind :=
  match SourceKind.ofSpelling? (String.ofList t) with
  | some k => .ok k
  | none =>
      let rule := Requirement.knownKind (String.ofList t)
      match Utf8.unencodable? rule.reason.toList with
      | some e => .error (.unencodable e)
      | none => refuse loc rule v

/-- Read a kind of source.  Bytes must be the exact name of a kind. -/
def toKind (loc : List Locator) (v : Value) : Checked SourceKind :=
  match v with
  | .text t => textToKind loc v t
  | .bytes bs =>
      match (Utf8.decode bs).toOption.bind fun t => SourceKind.ofLabel? (String.ofList t) with
      | some k => .ok k
      | none => refuse loc .kind v
  | v => refuse loc .kind v

/-- The first of several fields that is there, with its name. -/
def firstField? (entries : List (Value × Value)) (names : List String) :
    Option (String × Value) :=
  names.findSome? fun name => (field? name entries).map fun v => (name, v)

/-- Read a field, or take the value that it has when it is left out. -/
def optional {α : Type} (loc : List Locator) (entries : List (Value × Value))
    (names : List String) (read : List Locator → Value → Checked α) (usual : α) : Checked α :=
  match firstField? entries names with
  | some (name, v) => read (loc ++ [.field name]) v
  | none => .ok usual

end Yaml.Value

namespace Yaml.Document

open Checked Yaml.Value

/-- Read the elements of a list. -/
def toList {α : Type} (d : Document) (read : List Locator → Value → Checked α)
    (loc : List Locator) (v : Value) : Checked (List α) :=
  match d.content? v with
  | some (.list vs) | some (.tuple vs) | some (.set vs) =>
      Checked.all (fun (p : Value × Nat) => read (loc ++ [.item p.2]) p.1) vs.zipIdx
  | _ => refuse loc .list v

/-- Read a descriptor. -/
def toDescriptor (d : Document) (loc : List Locator) (v : Value) : Checked SourceDescriptor :=
  match d.entries? v with
  | some entries =>
      let kind : Checked SourceKind :=
        match field? "type" entries with
        | some k => toKind (loc ++ [.field "type"]) k
        | none => refuse (loc ++ [.field "type"]) .required v
      both
        (both
          (both
            (both (kind.map SourceDescriptor.mk) (optional loc entries ["enabled"] toBool true))
            (optional loc entries ["priority"] (toOption toInt) none))
          (optional loc entries ["path", "filePath", "file_path"] (toOption toText) none))
        (optional loc entries ["watch"] toBool true)
  | none => refuse loc .descriptor v

/-- Read settings. -/
def toSettings (d : Document) (v : Value) : Checked Settings :=
  match d.entries? v with
  | some entries =>
      both
        (both
          (both
            ((optional [] entries ["sources"] (d.toList d.toDescriptor) []).map Settings.mk)
            (optional [] entries ["enable_auto_scan"] toBool true))
          (optional [] entries ["auto_scan_patterns"] (d.toList toText) defaultPatterns))
        (optional [] entries ["builtin_priority"] toInt builtinPriority)
  | none => refuse [] .settings v

end Yaml.Document

end DesignTokens
