import DesignTokens.CommandLine.Grammar
import DesignTokens.CommandLine.Help
import DesignTokens.Number.Integer
import DesignTokens.Token.Category
import DesignTokens.Token.Theme

/-!
# Invocations

An invocation says what the program is asked to do: which command, in which project, and how much
it should say.  Reading the arguments gives an invocation, or stops: because help was asked for,
or because something is wrong.  What comes first in the arguments decides.
-/

namespace DesignTokens

namespace CommandLine

/-- What the program can be asked to do. -/
inductive Command
  /-- List the active tokens of a theme, of one category or of all.  Without a theme there is
  nothing to list. -/
  | list (theme : Option Theme) (category : Option Category)
  /-- Search tokens by name, in one theme or in all records.  Without a limit nothing that is found
  can be shown. -/
  | search (keyword : String) (theme : Option Theme) (limit : Option Int)
  /-- Show one token. -/
  | get (name : String)
  /-- Find references in files, perhaps only those to unknown tokens. -/
  | scan (files : List String) (unknownOnly : Bool)
  /-- Show the sources. -/
  | sources
  /-- Report changes until interrupted. -/
  | watch
  deriving Repr, DecidableEq

/-- What the program is asked for. -/
structure Invocation where
  /-- Is colour turned off? -/
  plain : Bool
  /-- The directory of the project. -/
  root : Option String
  /-- The settings file, if one is named. -/
  config : Option String
  /-- Is the whole journal shown? -/
  verbose : Bool
  /-- The command. -/
  command : Option Command
  deriving Repr, DecidableEq

/-- Why there is nothing more to do. -/
inductive Stop
  /-- Something was asked for that is only shown. -/
  | shown (text : String)
  /-- The command line is wrong. -/
  | refused (help : Help) (problem : Problem)

/-- The words that are shown for the version. -/
def versionLine : String :=
  "tokenlens 0.1.0\n"

/-! ### Grammars -/

/-- What a switch stands for. -/
inductive Key
  | help
  | version
  | noColor
  | root
  | config
  | verbose
  | theme
  | category
  | limit
  | unknownOnly
  deriving Repr, DecidableEq

/-- A switch that takes no value. -/
def flag (key : Key) (names : List String) : Switch Key :=
  ⟨key, names.map String.toList, false⟩

/-- A switch that takes a value. -/
def setting (key : Key) (name : String) : Switch Key :=
  ⟨key, [name.toList], true⟩

/-- The switch that asks for help. -/
def helpFlag : Switch Key :=
  flag .help ["-h", "--help"]

/-- The grammar of the program; the operand is a command with its arguments. -/
def mainGrammar : Grammar Key :=
  { mark := '-'
    switches :=
      [ helpFlag, flag .version ["--version"], flag .noColor ["--no-color"], setting .root "--root",
        setting .config "--config", flag .verbose ["-v", "--verbose"] ]
    operand := some ⟨"<command>".toList, .everything, false⟩ }

/-- A grammar without operand. -/
def bareGrammar (switches : List (Switch Key)) : Grammar Key :=
  ⟨'-', helpFlag :: switches, none⟩

/-- The grammar for listing tokens. -/
def listGrammar : Grammar Key :=
  bareGrammar [setting .theme "--theme", setting .category "--category"]

/-- The grammar for searching tokens. -/
def searchGrammar : Grammar Key :=
  { bareGrammar [setting .theme "--theme", setting .limit "--limit"] with
    operand := some ⟨"keyword".toList, .one, true⟩ }

/-- The grammar for showing a token.  Token names begin with dashes, so its switches do not. -/
def getGrammar : Grammar Key :=
  ⟨'+', [flag .help ["+h", "++help"]], some ⟨"name".toList, .one, true⟩⟩

/-- The grammar for scanning files. -/
def scanGrammar : Grammar Key :=
  { bareGrammar [flag .unknownOnly ["--unknown"]] with
    operand := some ⟨"files".toList, .many, true⟩ }

/-! ### Reading arguments -/

/-- Apply what was taken to a state, one after another, then mind the problem.  The words that are
left over are given with the last state. -/
def perform {σ : Type} (help : Help) (r : Reading Key)
    (step : σ → Taken Key → Except Stop σ) (start : σ) : Except Stop (σ × List Text) := do
  let last ← r.taken.foldlM step start
  match r.problem with
  | some p => throw (.refused help p)
  | none => return (last, r.leftover)

/-- The choice that a value names; without a value nothing is chosen. -/
def choose {α : Type} (help : Help) (s : Switch Key) (value : Option Text)
    (ofLabel? : String → Option α) (choices : List String) : Except Stop (Option α) :=
  match value with
  | none => .ok none
  | some t =>
      match ofLabel? (String.ofList t) with
      | some a => .ok (some a)
      | none => .error (.refused help (.invalidChoice s.label t (choices.map String.toList)))

/-- The theme that a value names. -/
def chooseTheme (help : Help) (s : Switch Key) (value : Option Text) : Except Stop (Option Theme) :=
  choose help s value Theme.ofLabel? (Theme.all.map Theme.label)

/-- The whole number that a value is; without a value there is none. -/
def chooseNumber (help : Help) (s : Switch Key) (value : Option Text) : Except Stop (Option Int) :=
  match value with
  | none => .ok none
  | some t =>
      match Integer.read 10 t with
      | .ok n => .ok (some n)
      | .error _ => .error (.refused help (.invalidInteger s.label t))

/-- Read the arguments for listing tokens. -/
def readList (words : List Text) : Except Stop (Command × List Text) := do
  let step (state : Option Theme × Option Category) (t : Taken Key) :
      Except Stop (Option Theme × Option Category) :=
    match t with
    | .switch s value =>
        match s.key with
        | .help => .error (.shown Help.list.text)
        | .theme => do return (← chooseTheme .list s value, state.2)
        | .category => do
            let c ← choose .list s value Category.ofLabel? (Category.all.map Category.label)
            return (state.1, c)
        | _ => .ok state
    | .operand _ => .ok state
  let ((theme, category), rest) ← perform .list (listGrammar.read words) step (some .light, none)
  return (.list theme category, rest)

/-- How many results a search shows when nothing else is said. -/
def usualLimit : Int :=
  50

/-- Read the arguments for searching tokens. -/
def readSearch (words : List Text) : Except Stop (Command × List Text) := do
  let step (state : Text × Option Theme × Option Int) (t : Taken Key) :
      Except Stop (Text × Option Theme × Option Int) :=
    let (keyword, theme, limit) := state
    match t with
    | .switch s value =>
        match s.key with
        | .help => .error (.shown Help.search.text)
        | .theme => do return (keyword, ← chooseTheme .search s value, limit)
        | .limit => do return (keyword, theme, ← chooseNumber .search s value)
        | _ => .ok state
    | .operand words => .ok (words.headD [], theme, limit)
  let ((keyword, theme, limit), rest) ←
    perform .search (searchGrammar.read words) step ([], none, some usualLimit)
  return (.search (String.ofList keyword) theme limit, rest)

/-- Read the arguments for showing a token. -/
def readGet (words : List Text) : Except Stop (Command × List Text) := do
  let step (_ : Text) (t : Taken Key) : Except Stop Text :=
    match t with
    | .switch _ _ => .error (.shown Help.get.text)
    | .operand words => .ok (words.headD [])
  let (name, rest) ← perform .get (getGrammar.read words) step []
  return (.get (String.ofList name), rest)

/-- Read the arguments for scanning files. -/
def readScan (words : List Text) : Except Stop (Command × List Text) := do
  let step (state : List Text × Bool) (t : Taken Key) : Except Stop (List Text × Bool) :=
    match t with
    | .switch s _ =>
        match s.key with
        | .help => .error (.shown Help.scan.text)
        | _ => .ok (state.1, true)
    | .operand words => .ok (words, state.2)
  let ((files, unknownOnly), rest) ← perform .scan (scanGrammar.read words) step ([], false)
  return (.scan (files.map String.ofList) unknownOnly, rest)

/-- Read the arguments of a command that has none but the switch for help. -/
def readBare (help : Help) (c : Command) (words : List Text) :
    Except Stop (Command × List Text) := do
  let step (_ : Unit) (_ : Taken Key) : Except Stop Unit := .error (.shown help.text)
  let ((), rest) ← perform help ((bareGrammar []).read words) step ()
  return (c, rest)

/-- The names of the commands. -/
def commandNames : List String :=
  ["list", "search", "get", "scan", "sources", "watch"]

/-- Read a command with its arguments. -/
def readCommand (name : Text) (words : List Text) : Except Stop (Command × List Text) :=
  match String.ofList name with
  | "list" => readList words
  | "search" => readSearch words
  | "get" => readGet words
  | "scan" => readScan words
  | "sources" => readBare .sources .sources words
  | "watch" => readBare .watch .watch words
  | _ =>
      .error (.refused .main
        (.invalidChoice "<command>".toList name (commandNames.map String.toList)))

namespace Invocation

/-- Nothing is asked for. -/
def idle : Invocation :=
  ⟨false, some ".", none, false, none⟩

/-- Take one more thing from the arguments of the program.  The words that the command leaves over
are kept. -/
def take (state : Invocation × List Text) (t : Taken Key) : Except Stop (Invocation × List Text) :=
  let (i, rest) := state
  match t with
  | .switch s value =>
      let value := value.map String.ofList
      match s.key with
      | .help => .error (.shown Help.main.text)
      | .version => .error (.shown versionLine)
      | .noColor => .ok ({ i with plain := true }, rest)
      | .root => .ok ({ i with root := value }, rest)
      | .config => .ok ({ i with config := value }, rest)
      | .verbose => .ok ({ i with verbose := true }, rest)
      | _ => .ok state
  | .operand [] => .ok state
  | .operand (name :: words) => do
      let (c, more) ← readCommand name words
      return ({ i with command := some c }, rest ++ more)

/-- Read the arguments of the program. -/
def read (words : List Text) : Except Stop Invocation := do
  let ((i, fromCommand), rest) ← perform .main (mainGrammar.read words) take (idle, [])
  match rest ++ fromCommand with
  | [] => return i
  | words => throw (.refused .main (.unrecognized words))

end Invocation

end CommandLine

end DesignTokens
