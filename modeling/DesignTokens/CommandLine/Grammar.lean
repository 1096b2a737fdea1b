import DesignTokens.Text.Quoted

/-!
# Reading a command line

A grammar has switches, all of which begin with the same mark, and at most one operand.  Words are
told apart first: a word that begins with the mark is a use of a switch, perhaps abbreviated, and
behind a divider all words are plain.  Then the uses and the operand are taken in their order;
words that fit nowhere are left over.  What was taken before a problem arises counts.
-/

namespace DesignTokens

namespace CommandLine

/-- A switch of a command line. -/
structure Switch (κ : Type) where
  /-- What the switch stands for. -/
  key : κ
  /-- The spellings. -/
  names : List Text
  /-- Is the switch followed by a value? -/
  takesValue : Bool

/-- How many words an operand takes. -/
inductive Extent
  /-- One plain word. -/
  | one
  /-- All plain words, and at least one. -/
  | many
  /-- One plain word and everything behind it. -/
  | everything
  deriving Repr, DecidableEq

/-- An operand of a command line. -/
structure Operand where
  /-- What the operand is called in messages. -/
  name : Text
  /-- How many words it takes. -/
  extent : Extent
  /-- Must it be there? -/
  required : Bool
  deriving Repr, DecidableEq

/-- What a command line is made of. -/
structure Grammar (κ : Type) where
  /-- The character with which switches begin. -/
  mark : Char
  /-- The switches. -/
  switches : List (Switch κ)
  /-- The operand. -/
  operand : Option Operand

/-- What can be wrong with a command line. -/
inductive Problem
  /-- An abbreviation could stand for several switches. -/
  | ambiguous (word : Text) (candidates : List Text)
  /-- A switch that takes no value has one. -/
  | unwantedValue (argument value : Text)
  /-- A switch lacks its value. -/
  | missingValue (argument : Text)
  /-- The operand is not there. -/
  | missingOperand (name : Text)
  /-- A value is none of the choices. -/
  | invalidChoice (argument value : Text) (choices : List Text)
  /-- A value is no whole number. -/
  | invalidInteger (argument value : Text)
  /-- Words are left over. -/
  | unrecognized (words : List Text)
  deriving Repr, DecidableEq

namespace Problem

/-- Texts between commas. -/
def listed (ts : List Text) : Text :=
  ", ".toList.intercalate ts

/-- A message about an argument. -/
def about (argument : Text) (message : Text) : Text :=
  "argument ".toList ++ argument ++ ": ".toList ++ message

/-- The message of a problem. -/
def message : Problem → Text
  | .ambiguous word candidates =>
      "ambiguous option: ".toList ++ word ++ " could match ".toList ++ listed candidates
  | .unwantedValue argument value =>
      about argument ("ignored explicit argument ".toList ++ value.quoted)
  | .missingValue argument => about argument "expected one argument".toList
  | .missingOperand name => "the following arguments are required: ".toList ++ name
  | .invalidChoice argument value choices =>
      about argument ("invalid choice: ".toList ++ value.quoted ++ " (choose from ".toList
        ++ listed (choices.map Text.quoted) ++ [')'])
  | .invalidInteger argument value =>
      about argument ("invalid int value: ".toList ++ value.quoted)
  | .unrecognized words => "unrecognized arguments: ".toList ++ [' '].intercalate words

end Problem

variable {κ : Type}

/-- What a switch is called in messages: its spellings. -/
def Switch.label (s : Switch κ) : Text :=
  ['/'].intercalate s.names

/-! ### Telling words apart -/

/-- The word behind which all words are plain. -/
def divider : Text :=
  "--".toList

/-- A use of a switch in one word. -/
structure Use (κ : Type) where
  /-- The switch. -/
  switch : Switch κ
  /-- The spelling that was meant. -/
  name : Text
  /-- The value that stands in the same word. -/
  value : Option Text

/-- What a word is. -/
inductive Role (κ : Type)
  /-- It can be a value or a part of the operand. -/
  | plain
  /-- All words behind it are plain. -/
  | divider
  /-- It is a use of a switch. -/
  | use (u : Use κ)
  /-- It looks like a use of a switch, but there is none. -/
  | stray

/-- Does the word begin like a use of a switch? -/
def Role.isPlain : Role κ → Bool
  | .plain => true
  | _ => false

/-- Is it the divider? -/
def Role.isDivider : Role κ → Bool
  | .divider => true
  | _ => false

/-- Can the word be no use of a switch? -/
def Role.isOperand (r : Role κ) : Bool :=
  r.isPlain || r.isDivider

namespace Grammar

/-- The spellings of all switches. -/
def spellings (g : Grammar κ) : List (Text × Switch κ) :=
  g.switches.flatMap fun s => s.names.map fun n => (n, s)

/-- The switch with exactly this spelling. -/
def switch? (g : Grammar κ) (name : Text) : Option (Switch κ) :=
  g.spellings.lookup name

/-- The uses that a word may abbreviate.  Behind two marks a spelling may be cut short, and a value
may follow an equals sign; behind one mark a spelling of one letter may be followed directly. -/
def candidates (g : Grammar κ) (w : Text) : List (Use κ) :=
  if w[1]? = some g.mark then
    let (start, value) := Text.cutFirst '=' w
    g.spellings.filterMap fun (n, s) =>
      if start.isPrefixOf n then some ⟨s, n, value⟩ else none
  else
    g.spellings.filterMap fun (n, s) =>
      if n = w.take 2 then some ⟨s, n, some (w.drop 2)⟩
      else if w.isPrefixOf n then some ⟨s, n, none⟩
      else none

/-- Does a word look like a negative number? -/
def isNegativeNumber (w : Text) : Bool :=
  match w with
  | '-' :: t =>
      let t := if t.getLast? = some '\n' then t.dropLast else t
      let digits := t.takeWhile isDigitChar
      match t.dropWhile isDigitChar with
      | [] => !digits.isEmpty
      | '.' :: u => !u.isEmpty && u.all isDigitChar
      | _ => false
  | _ => false

/-- What a word is, in front of the divider. -/
def role (g : Grammar κ) (w : Text) : Except Problem (Role κ) :=
  match w with
  | [] => .ok .plain
  | c :: rest =>
      if c ≠ g.mark then .ok .plain
      else
        match g.switch? w with
        | some s => .ok (.use ⟨s, w, none⟩)
        | none =>
            if rest.isEmpty then .ok .plain
            else
              let (name, value) := Text.cutFirst '=' w
              match g.switch? name, value with
              | some s, some v => .ok (.use ⟨s, name, some v⟩)
              | _, _ =>
                  match g.candidates w with
                  | [u] => .ok (.use u)
                  | [] => .ok (if isNegativeNumber w || w.contains ' ' then .plain else .stray)
                  | us => .error (.ambiguous w (us.map Use.name))

/-- The words with what they are. -/
def roles (g : Grammar κ) : List Text → Except Problem (List (Text × Role κ))
  | [] => .ok []
  | w :: ws =>
      if w = divider then .ok ((w, .divider) :: ws.map fun v => (v, .plain))
      else do
        let r ← g.role w
        let rs ← roles g ws
        return (w, r) :: rs

/-! ### Taking uses and the operand -/

end Grammar

/-- Something that was taken from a command line. -/
inductive Taken (κ : Type)
  /-- A switch, with its value.  A switch that takes a value has none if it is given the divider in
  its place. -/
  | switch (s : Switch κ) (value : Option Text)
  /-- The words of the operand. -/
  | operand (words : List Text)

/-- What was read from a command line. -/
structure Reading (κ : Type) where
  /-- What was taken, first to last. -/
  taken : List (Taken κ)
  /-- The words that fit nowhere. -/
  leftover : List Text
  /-- What ended the reading, if something was wrong. -/
  problem : Option Problem

namespace Reading

/-- Nothing was read. -/
def done (problem : Option Problem) : Reading κ :=
  ⟨[], [], problem⟩

/-- Something was taken before. -/
def behind (r : Reading κ) (taken : List (Taken κ)) (leftover : List Text) : Reading κ :=
  ⟨taken ++ r.taken, leftover ++ r.leftover, r.problem⟩

end Reading

/-- What one word with a use of a switch gives. -/
structure Cluster (κ : Type) where
  /-- The switches that were taken. -/
  taken : List (Taken κ)
  /-- The switch that takes its value from the next word. -/
  wanting : Option (Switch κ)

namespace Grammar

/-- Read a switch with a value in the same word.  A switch of one letter that takes none may be
followed by the letters of others. -/
def cluster (g : Grammar κ) (s : Switch κ) (name value : Text) : Except Problem (Cluster κ) :=
  if s.takesValue then .ok ⟨[.switch s (if value = divider then none else some value)], none⟩
  else
    match value with
    | [] => .error (.unwantedValue s.label value)
    | c :: rest =>
        match if name[1]? = some g.mark then none else g.switch? [g.mark, c] with
        | none => .error (.unwantedValue s.label (c :: rest))
        | some next => do
            let more ←
              match rest with
              | [] =>
                  if next.takesValue then pure ⟨[], some next⟩
                  else pure ⟨[.switch next none], none⟩
              | v => cluster g next [g.mark, c] v
            return { more with taken := .switch s none :: more.taken }
termination_by value.length

/-- Read a use of a switch. -/
def Use.cluster (g : Grammar κ) (u : Use κ) : Except Problem (Cluster κ) :=
  match u.value with
  | some v => g.cluster u.switch u.name v
  | none =>
      if u.switch.takesValue then .ok ⟨[], some u.switch⟩
      else .ok ⟨[.switch u.switch none], none⟩

/-- How many of the words an operand takes, if they are as it wants them. -/
def extentOf (e : Extent) (words : List (Text × Role κ)) : Nat :=
  let dividers := (words.takeWhile fun w => w.2.isDivider).length
  match words.drop dividers with
  | [] => 0
  | (_, r) :: rest =>
      if !r.isPlain then 0
      else
        match e with
        | .one => dividers + 1 + (rest.takeWhile fun w => w.2.isDivider).length
        | .many => dividers + 1 + (rest.takeWhile fun w => w.2.isOperand).length
        | .everything => words.length

/-- The words of an operand, without the first divider unless it takes everything. -/
def operandWords (e : Extent) (words : List Text) : List Text :=
  if e = .everything then words else words.erase divider

/-- Read words while the operand may still come. -/
def readFrom (g : Grammar κ) (operand : Option Operand) : List (Text × Role κ) → Reading κ
  | [] => .done ((operand.filter Operand.required).map fun o => .missingOperand o.name)
  | (w, .stray) :: ws => (readFrom g operand ws).behind [] [w]
  | (_, .use u) :: ws =>
      match Use.cluster g u with
      | .error p => .done (some p)
      | .ok c =>
          match c.wanting with
          | none => (readFrom g operand ws).behind c.taken []
          | some s =>
              match ws with
              | (v, .plain) :: rest =>
                  (readFrom g operand rest).behind (c.taken ++ [.switch s (some v)]) []
              | _ => .done (some (.missingValue s.label))
  | (w, r) :: ws =>
      match operand.map fun o => (o, extentOf o.extent ((w, r) :: ws)) with
      | some (o, n + 1) =>
          (readFrom g none (ws.drop n)).behind
            [.operand (operandWords o.extent (w :: (ws.take n).map Prod.fst))] []
      | _ => (readFrom g operand ws).behind [] [w]
termination_by words => words.length
decreasing_by
  all_goals simp only [List.length_cons, List.length_drop]
  all_goals omega

/-- Read a command line. -/
def read (g : Grammar κ) (words : List Text) : Reading κ :=
  match g.roles words with
  | .error p => .done (some p)
  | .ok rs => g.readFrom g.operand rs

end Grammar

end CommandLine

end DesignTokens
