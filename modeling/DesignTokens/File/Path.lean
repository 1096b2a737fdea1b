import DesignTokens.Text.Lower
import DesignTokens.Text.Utf8

/-!
# Paths

A path is a root and a list of components.  Empty components and single dots are dropped when a
path is read; double dots are kept.  Two leading slashes are a root of their own, three or more
are one.
-/

namespace DesignTokens

/-- Where a path starts. -/
inductive Root
  /-- At the working directory. -/
  | none
  /-- At the root directory. -/
  | slash
  /-- At the root directory, written with two slashes. -/
  | slashes
  deriving Repr, DecidableEq

namespace Root

/-- The text of a root. -/
def text : Root → Text
  | .none => []
  | .slash => ['/']
  | .slashes => ['/', '/']

/-- The root that a text begins with. -/
def ofText : Text → Root
  | '/' :: '/' :: '/' :: _ => .slash
  | '/' :: '/' :: _ => .slashes
  | '/' :: _ => .slash
  | _ => .none

end Root

/-- A path to a file or directory. -/
structure Path where
  /-- Where the path starts. -/
  root : Root
  /-- The components, none of them empty or a single dot. -/
  parts : List Text
  deriving Repr, DecidableEq

namespace Path

/-- The components of a text that is a path. -/
def partsOf (t : Text) : List Text :=
  (t.splitOn '/').filter fun part => !(part.isEmpty || part == ['.'])

/-- Read a path. -/
def ofText (t : Text) : Path :=
  ⟨Root.ofText t, partsOf t⟩

/-- Read a path from a string. -/
def ofString (s : String) : Path :=
  ofText s.toList

/-- The text of a path; the empty relative path is a single dot. -/
def text (p : Path) : Text :=
  if p.root = .none ∧ p.parts = [] then ['.'] else p.root.text ++ ['/'].intercalate p.parts

/-- The string of a path. -/
def toString (p : Path) : String :=
  String.ofList p.text

/-- Does the path start at the root directory? -/
def isAbsolute (p : Path) : Bool :=
  p.root != .none

/-- The last component, empty if there is none. -/
def name (p : Path) : Text :=
  p.parts.getLast?.getD []

/-- The path without its last component. -/
def parent (p : Path) : Path :=
  { p with parts := p.parts.dropLast }

/-- The path with one more component. -/
def child (p : Path) (name : Text) : Path :=
  { p with parts := p.parts ++ [name] }

/-- A path below a directory; an absolute path stays itself. -/
def join (directory p : Path) : Path :=
  if p.isAbsolute then p else { directory with parts := directory.parts ++ p.parts }

/-- The ending of a name: its last dot and what follows, if something stands on both sides. -/
def suffixOf (name : Text) : Text :=
  match Text.cutLast? '.' name with
  | some (before, behind) => if before.isEmpty || behind.isEmpty then [] else '.' :: behind
  | none => []

/-- The ending of the last component, in lower case. -/
def suffix (p : Path) : String :=
  String.ofList (Text.lower (suffixOf p.name))

/-- The components of a path below a directory. -/
def relativeTo? (p directory : Path) : Option (List Text) :=
  if p.root = directory.root ∧ directory.parts <+: p.parts
  then some (p.parts.drop directory.parts.length) else none

/-- Remove double dots together with the component before them; `above` is what was read, last
component first. -/
def settle (above : List Text) : List Text → List Text
  | [] => above.reverse
  | part :: parts =>
      if part = ['.', '.'] then settle above.tail parts else settle (part :: above) parts

/-- The absolute path without double dots, for a working directory. -/
def resolve (workingDirectory : List Text) (p : Path) : Path :=
  let parts := if p.isAbsolute then p.parts else workingDirectory ++ p.parts
  ⟨.slash, settle [] parts⟩

/-- How many bytes a component may have. -/
def partLimit : Nat :=
  255

/-- How many bytes a path may have. -/
def sizeLimit : Nat :=
  4095

/-- Is the component too long to be the name of anything? -/
def isOverlongPart (part : Text) : Bool :=
  partLimit < (Utf8.encode part).length

/-- Is the path as a whole too long to be looked up? -/
def isOverlong (p : Path) : Bool :=
  sizeLimit < (Utf8.encode p.text).length

/-- Is one component list listed no later than another? -/
def partsLe (a b : List Text) : Bool :=
  !decide (b < a)

/-- A byte of an address: letters, digits and a few marks stand for themselves. -/
def uriByte (b : UInt8) : Text :=
  let c := Char.ofNat b.toNat
  if c.isAlphanum || "_.-~/".toList.contains c then [c]
  else '%' :: (hexDigits 2 b.toNat).map Char.toUpper

/-- The address of a file. -/
def uri (p : Path) : String :=
  String.ofList ("file://".toList ++ (Utf8.encode p.text).flatMap uriByte)

end Path

/-- Why a path cannot be looked up. -/
inductive PathFault
  /-- It has a character that no path may have. -/
  | nul
  /-- It cannot be encoded. -/
  | surrogates (e : Utf8.Unencodable)
  /-- It, or a component on the way, is too long. -/
  | overlong (p : Path)
  deriving Repr, DecidableEq

/-- The message for a path that cannot be looked up. -/
def PathFault.message : PathFault → String
  | .nul => "embedded null byte"
  | .surrogates e => e.message
  | .overlong p => "[Errno 36] File name too long: " ++ quoted p.toString

/-- Is it the number of a surrogate that stands for a single byte? -/
def isByteSurrogate (n : Nat) : Bool :=
  0xDC80 ≤ n && n ≤ 0xDCFF

/-- What keeps a path from being handed to the file system, whatever is there. -/
def Path.fault? (p : Path) : Option PathFault :=
  match Utf8.unencodableFrom? isByteSurrogate 0 p.text with
  | some e => some (.surrogates e)
  | none => if p.text.contains '\x00' then some .nul else none

/-- What keeps a path from being followed: the paths to its components are handed to the file system
one after another.  `above` is what leads to the next one, last component first; a double dot takes
back the component before it. -/
def Path.faultBelow? (root : Root) : (above : List Text) → List Text → Option PathFault
  | _, [] => none
  | above, part :: parts =>
      if part ≠ ['.', '.'] then
        (Path.fault? ⟨root, (part :: above).reverse⟩).or (faultBelow? root (part :: above) parts)
      else if above.head? = some part ∨ (above = [] ∧ root = .none) then
        faultBelow? root (part :: above) parts
      else faultBelow? root above.tail parts

/-- The absolute path without double dots, for a working directory, if the path can be followed. -/
def Path.resolve? (workingDirectory : List Text) (p : Path) : Except PathFault Path :=
  let root : Root := if p.isAbsolute then .slash else .none
  match Path.faultBelow? root [] p.parts with
  | some e => .error e
  | none => .ok (p.resolve workingDirectory)

end DesignTokens
