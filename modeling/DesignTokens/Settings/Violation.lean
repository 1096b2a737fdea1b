import DesignTokens.Yaml.Value

/-!
# Violations

A value that is no descriptor, or no settings, violates the rules of one or more fields.  A
violation says where, which rule, and by which value.
-/

namespace DesignTokens

/-- A step on the way to a part of a value. -/
inductive Locator
  /-- A field. -/
  | field (name : String)
  /-- An element of a list, counted from zero. -/
  | item (index : Nat)
  deriving Repr, DecidableEq

/-- The text of a step. -/
def Locator.text : Locator → String
  | .field name => name
  | .item index => toString index

/-- A rule that a value can violate. -/
inductive Requirement
  /-- A descriptor is a mapping. -/
  | descriptor
  /-- Settings are a mapping. -/
  | settings
  /-- The field must be there. -/
  | required
  /-- A kind of source is given by its name. -/
  | kind
  /-- The name of a kind of source must be known. -/
  | knownKind (given : String)
  /-- A truth value is wanted. -/
  | truth
  /-- The value must be readable as a truth value. -/
  | readableTruth
  /-- A whole number is wanted. -/
  | integer
  /-- The text must be readable as a whole number. -/
  | readableInteger
  /-- The number must have no fraction. -/
  | wholeNumber
  /-- The number must be finite. -/
  | finiteNumber
  /-- The number must not be too large to be read. -/
  | integerSize
  /-- A text is wanted. -/
  | text
  /-- The bytes must be readable as a text. -/
  | readableText
  /-- A list is wanted. -/
  | list
  deriving Repr, DecidableEq

namespace Requirement

/-- The short name of a rule. -/
def name : Requirement → String
  | .descriptor | .settings => "model_type"
  | .required => "missing"
  | .kind => "enum"
  | .knownKind _ => "value_error"
  | .truth => "bool_type"
  | .readableTruth => "bool_parsing"
  | .integer => "int_type"
  | .readableInteger => "int_parsing"
  | .wholeNumber => "int_from_float"
  | .finiteNumber => "finite_number"
  | .integerSize => "int_parsing_size"
  | .text => "string_type"
  | .readableText => "string_unicode"
  | .list => "list_type"

/-- Why a value is none that is known. -/
def reason : Requirement → String
  | .knownKind given => "unsupported source type '" ++ given ++ "'"
  | _ => ""

/-- The message for a value that violates the rule. -/
def message : Requirement → String
  | .descriptor => "Input should be a valid dictionary or instance of SourceDescriptor"
  | .settings => "Input should be a valid dictionary or instance of Settings"
  | .required => "Field required"
  | .kind => "Input should be 'builtin', 'stylesheet' or 'script'"
  | .knownKind given => "Value error, " ++ reason (.knownKind given)
  | .truth => "Input should be a valid boolean"
  | .readableTruth => "Input should be a valid boolean, unable to interpret input"
  | .integer => "Input should be a valid integer"
  | .readableInteger =>
      "Input should be a valid integer, unable to parse string as an integer"
  | .wholeNumber => "Input should be a valid integer, got a number with a fractional part"
  | .finiteNumber => "Input should be a finite number"
  | .integerSize => "Unable to parse input string as an integer, exceeded maximum size"
  | .text => "Input should be a valid string"
  | .readableText =>
      "Input should be a valid string, unable to parse raw data as a unicode string"
  | .list => "Input should be a valid list"

end Requirement

/-- A value that violates a rule. -/
structure Violation where
  /-- Where the value is. -/
  location : List Locator
  /-- The rule. -/
  rule : Requirement
  /-- The value. -/
  value : Yaml.Value

namespace Violation

/-- The longest front of a text that takes at most `size` bytes. -/
def frontWithin (size : Nat) : Text → Text
  | [] => []
  | c :: cs =>
      let n := (Utf8.encodeChar c).length
      if n ≤ size then c :: frontWithin (size - n) cs else []

/-- The longest end of a text that takes at most `size` bytes. -/
def endWithin (size : Nat) (t : Text) : Text :=
  (frontWithin size t.reverse).reverse

/-- A text of more than fifty bytes is shown with its middle left out. -/
def abridged (t : Text) : Text :=
  if (Utf8.encode t).length ≤ 50 then t else frontWithin 25 t ++ "...".toList ++ endWithin 24 t

/-- The value as it is shown in a report.  A value that cannot be shown is called by its type. -/
def shown (d : Yaml.Document) (v : Violation) : Text :=
  match d.shown v.value with
  | some t => abridged t
  | none => abridged ("<unprintable ".toList ++ (d.typeName v.value).toList ++ " object>".toList)

/-- The two lines about a violation: where, and what. -/
def lines (d : Yaml.Document) (v : Violation) : List String :=
  let about :=
    "  " ++ v.rule.message ++ " [type=" ++ v.rule.name ++ ", input_value="
      ++ String.ofList (v.shown d) ++ ", input_type=" ++ d.typeName v.value ++ "]"
  if v.location.isEmpty then [about]
  else [".".intercalate (v.location.map Locator.text), about]

/-- The report on the violations of settings in a document. -/
def report (d : Yaml.Document) (vs : List Violation) : String :=
  let count := toString vs.length ++ " validation error" ++ (if vs.length = 1 then "" else "s")
  "\n".intercalate ((count ++ " for Settings") :: vs.flatMap (lines d))

end Violation

end DesignTokens
