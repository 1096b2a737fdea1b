import DesignTokens.Session.Report

/-!
# Running the program

A run reads the arguments, opens a session where a command is given, makes the command's report and
closes the session.  Its outcome is what the program writes and the code with which it ends.
Watching goes on until it is interrupted; what happens to the files meanwhile is a parameter.
-/

namespace DesignTokens

open CommandLine

/-- What a run writes, and how it ends. -/
structure Outcome where
  /-- The code with which the program ends. -/
  code : Nat
  /-- What is said. -/
  output : String
  /-- Complaints and the journal. -/
  diagnostics : String
  deriving Repr, DecidableEq

namespace Session

/-- The entries of the journal that are shown. -/
def journalText (verbose : Bool) (w : Workspace) : String :=
  let shown := w.journal.filter fun e => verbose || e.level.isAlarming
  String.join (shown.map fun e => e.line ++ "\n")

/-- Report what a command that ends by itself has to say. -/
def report (color : Bool) (s : Session) : Command → Report
  | .list theme category => s.reportList color theme category
  | .search keyword theme limit => s.reportSearch keyword theme limit
  | .get name => s.reportToken color name
  | .scan files unknownOnly => s.reportScan color files unknownOnly
  | .sources => s.reportSources
  | .watch => .done [] 0

/-- Watch until interrupted, while something happens to the files. -/
def watchWhile (s : Session) (meanwhile : Workspace → Workspace) : List ConsoleLine × Session :=
  let w := meanwhile s.workspace.listen
  (s.watchLines ++ w.notices.map noticeLine ++ [.warning "\nInterrupted"],
    { s with workspace := w }.close)

/-- Run a command. -/
def runCommand (files : FileTree) (color : Bool) (i : Invocation) (c : Command)
    (meanwhile : Workspace → Workspace) : Outcome :=
  let opening := openWith files i (c matches .watch)
  let finish (lines : List ConsoleLine) (code : Nat) (s : Session) : Outcome :=
    ⟨code, ConsoleLine.printed color (opening.lines ++ lines), journalText i.verbose s.workspace⟩
  match opening.problem, c with
  | some e, _ => finish [.error e] 1 opening.session
  | none, .watch =>
      let (lines, s) := opening.session.watchWhile meanwhile
      finish lines interruptedCode s
  | none, c =>
      let (lines, code) := (opening.session.report color c).closed
      finish lines code opening.session.close

/-- Run the program on arguments. -/
def run (files : FileTree) (color : Bool) (words : List Text)
    (meanwhile : Workspace → Workspace) : Outcome :=
  match Invocation.read words with
  | .error (.shown text) => ⟨0, text, ""⟩
  | .error (.refused help p) =>
      ⟨2, "", help.usageText ++ help.program ++ ": error: " ++ String.ofList p.message ++ "\n"⟩
  | .ok i =>
      match i.command with
      | none => ⟨0, Help.main.text, ""⟩
      | some c => runCommand files (color && !i.plain) i c meanwhile

end Session

end DesignTokens
