import DesignTokens.Text.Basic

/-!
# Wildcards

A wildcard pattern is matched against a whole text.  A star stands for any run of characters, a
question mark for one character, and a bracket for one character of a set; every other character
stands for itself.  A set that begins with an exclamation mark is complemented.  A hyphen between
two characters of a set makes a range; a range that runs backwards disappears with both its ends.
-/

namespace DesignTokens

namespace Glob

/-- A set of characters, given by closed ranges or as the complement of some. -/
structure CharSet where
  /-- Is the set the complement of the ranges? -/
  complemented : Bool
  /-- The ranges. -/
  ranges : List (Char × Char)
  deriving Repr, DecidableEq

namespace CharSet

/-- Is the character in the set? -/
def has (s : CharSet) (c : Char) : Bool :=
  (s.ranges.any fun r => r.1 ≤ c && c ≤ r.2) != s.complemented

/-- All characters. -/
def all : CharSet :=
  ⟨true, []⟩

/-- One character. -/
def only (c : Char) : CharSet :=
  ⟨false, [(c, c)]⟩

end CharSet

/-- A wildcard pattern is made of items. -/
inductive Item
  /-- Any run of characters, the empty one included. -/
  | run
  /-- One character of a set. -/
  | one (set : CharSet)
  deriving Repr, DecidableEq

/-! ### Sets between brackets -/

/-- The text of a set behind its opening bracket, with what follows the closing one.  A bracket
that comes first, or first behind the exclamation mark, belongs to the set. -/
def setBody? (t : Text) : Option (Text × Text) :=
  let (bang, t) : Text × Text :=
    match t with
    | '!' :: u => (['!'], u)
    | _ => ([], t)
  let (bracket, t) : Text × Text :=
    match t with
    | ']' :: u => ([']'], u)
    | _ => ([], t)
  match Text.cutFirst ']' t with
  | (body, some rest) => some (bang ++ bracket ++ body, rest)
  | (_, none) => none

/-- Cut the text of a set at the hyphens that make ranges.  The next `skip` characters are no
such hyphens: a range needs a character on either side that belongs to no other range. -/
def rangeChunks (skip : Nat) : Text → List Text
  | [] => [[]]
  | c :: cs =>
      if skip = 0 ∧ c = '-' then [] :: rangeChunks 2 cs
      else
        match rangeChunks (skip - 1) cs with
        | chunk :: chunks => (c :: chunk) :: chunks
        | [] => [[c]]

/-- A hyphen at the end makes no range: it belongs to the chunk before it. -/
def closeChunks : List Text → List Text
  | [chunk, []] => [chunk ++ ['-']]
  | chunk :: chunks => chunk :: closeChunks chunks
  | [] => []

/-- Remove the ranges that run backwards, last first. -/
def forwardChunks : List Text → List Text
  | [] => []
  | chunk :: chunks =>
      match forwardChunks chunks with
      | [] => [chunk]
      | next :: more =>
          match chunk.getLast?, next.head? with
          | some a, some b =>
              if b < a then (chunk.dropLast ++ next.tail) :: more else chunk :: next :: more
          | _, _ => chunk :: next :: more

/-- The members of a set: characters, and `none` for a hyphen that makes a range. -/
def setMembers (body : Text) : List (Option Char) :=
  let skip := if body.head? = some '!' then 2 else 1
  [none].intercalate ((forwardChunks (closeChunks (rangeChunks skip body))).map fun chunk =>
    chunk.map some)

/-- The ranges that the members of a set make. -/
def memberRanges : List (Option Char) → List (Char × Char)
  | some a :: none :: some b :: ms => (a, b) :: memberRanges ms
  | some a :: ms => (a, a) :: memberRanges ms
  | none :: ms => memberRanges ms
  | [] => []

/-- The set with a given text. -/
def charSet (body : Text) : CharSet :=
  match setMembers body with
  | some '!' :: ms => ⟨true, memberRanges ms⟩
  | ms => ⟨false, memberRanges ms⟩

/-! ### Patterns -/

/-- The items of a pattern; an opening bracket without a closing one stands for itself. -/
def items : (fuel : Nat) → Text → List Item
  | 0, _ => []
  | _ + 1, [] => []
  | fuel + 1, '*' :: t => .run :: items fuel t
  | fuel + 1, '?' :: t => .one .all :: items fuel t
  | fuel + 1, '[' :: t =>
      match setBody? t with
      | some (body, rest) => .one (charSet body) :: items fuel rest
      | none => .one (.only '[') :: items fuel t
  | fuel + 1, c :: t => .one (.only c) :: items fuel t

/-- Does a property hold of the text or of what follows one of its characters? -/
def anySuffix (p : Text → Bool) : Text → Bool
  | [] => p []
  | c :: cs => p (c :: cs) || anySuffix p cs

/-- Do the items accept the whole text?  A run may take any part of it. -/
def accepts : List Item → Text → Bool
  | [], t => t.isEmpty
  | .run :: is, t => anySuffix (accepts is) t
  | .one _ :: _, [] => false
  | .one set :: is, c :: cs => set.has c && accepts is cs

/-! ### Matching

Trying all parts for every run would take too long where there are many runs.  So for every end of
the text it is found out once whether the items behind a position accept it, from the last item to
the first. -/

/-- Whether a property holds of the ends of a text, longest first. -/
def onEnds (p : Text → Bool) : Text → List Bool
  | [] => [p []]
  | c :: cs => p (c :: cs) :: onEnds p cs

/-- Whether something holds at a place or behind it. -/
def orBehind : List Bool → List Bool
  | [] => []
  | b :: bs =>
      let behind := orBehind bs
      (b || behind.headD false) :: behind

/-- Whether a character of a set stands at a place, and something holds behind it. -/
def oneBefore (set : CharSet) : Text → List Bool → List Bool
  | c :: cs, _ :: bs => (set.has c && bs.headD false) :: oneBefore set cs bs
  | _, _ => [false]

/-- Whether the items accept the ends of a text, longest first. -/
def acceptedEnds (t : Text) : List Item → List Bool
  | [] => onEnds List.isEmpty t
  | .run :: is => orBehind (acceptedEnds t is)
  | .one set :: is => oneBefore set t (acceptedEnds t is)

/-- Do the items match the whole text? -/
def matchItems (is : List Item) (t : Text) : Bool :=
  (acceptedEnds t is).headD false

/-- The first of the ends of a text is the whole text. -/
theorem headD_onEnds (p : Text → Bool) (t : Text) : (onEnds p t).headD false = p t := by
  cases t <;> rfl

/-- What holds of an end or of one behind it holds of some end behind it. -/
theorem orBehind_onEnds (p : Text → Bool) (t : Text) :
    orBehind (onEnds p t) = onEnds (anySuffix p) t := by
  induction t with
  | nil => simp [onEnds, orBehind, anySuffix]
  | cons c cs ih =>
      simp only [onEnds, orBehind, anySuffix, ih]
      rw [headD_onEnds]

/-- One character of a set in front of accepted ends makes the ends that are accepted with the set.
-/
theorem oneBefore_onEnds (set : CharSet) (is : List Item) (t : Text) :
    oneBefore set t (onEnds (accepts is) t) = onEnds (accepts (.one set :: is)) t := by
  induction t with
  | nil => simp [onEnds, oneBefore, accepts]
  | cons c cs ih =>
      simp only [onEnds, oneBefore, accepts, ih]
      rw [headD_onEnds]

/-- The ends that are marked are those that the items accept. -/
theorem acceptedEnds_eq_onEnds (t : Text) (is : List Item) :
    acceptedEnds t is = onEnds (accepts is) t := by
  induction is with
  | nil => cases t <;> rfl
  | cons i is ih =>
      cases i with
      | run =>
          rw [acceptedEnds, ih, orBehind_onEnds]
          rfl
      | one set => rw [acceptedEnds, ih, oneBefore_onEnds]

/-- The items match a text exactly if they accept it. -/
theorem matchItems_eq_accepts (is : List Item) (t : Text) : matchItems is t = accepts is t := by
  rw [matchItems, acceptedEnds_eq_onEnds, headD_onEnds]

/-- Does a wildcard pattern match the whole text? -/
def wildcard (pattern t : Text) : Bool :=
  matchItems (items pattern.length pattern) t

/-- Does a text have characters that are special in a wildcard pattern? -/
def isWildcard (t : Text) : Bool :=
  t.any fun c => c == '*' || c == '?' || c == '['

end Glob

end DesignTokens
