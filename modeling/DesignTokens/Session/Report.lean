import DesignTokens.Registry.Search
import DesignTokens.Scanner
import DesignTokens.Session.Basic
import DesignTokens.Token.Name

/-!
# Reports

Each command makes a report on a session: the lines that it says and the code with which the
program ends.  A report may end in an error, behind what was said by then.
-/

namespace DesignTokens

/-- What a command says, and how it ends. -/
structure Report where
  /-- The lines. -/
  lines : List ConsoleLine
  /-- The code with which the program ends, or the message of an error. -/
  ending : Except String Nat

namespace Report

/-- A report without error. -/
def done (lines : List ConsoleLine) (code : Nat) : Report :=
  ⟨lines, .ok code⟩

/-- The lines with the error at their end, and the code with which the program ends. -/
def closed (r : Report) : List ConsoleLine × Nat :=
  match r.ending with
  | .ok code => (r.lines, code)
  | .error message => (r.lines ++ [.error message], 1)

/-- The report with other lines in front. -/
def behind (r : Report) (lines : List ConsoleLine) : Report :=
  { r with lines := lines ++ r.lines }

/-- A report of nothing but an error. -/
def failed (message : String) : Report :=
  ⟨[], .error message⟩

/-- Lines one group after another, up to the first group that cannot be written because of a number
in it. -/
def ofGroups (code : Nat) : List (Option (List ConsoleLine)) → Report
  | [] => .done [] code
  | none :: _ => .failed Integer.unwritableMessage
  | some lines :: groups => (ofGroups code groups).behind lines

end Report

namespace Session

/-- Is one name listed no later than another? -/
def nameLe (a b : String) : Bool :=
  !decide (b < a)

/-- The label of a theme at the beginning of a sentence. -/
def themeTitle (t : Theme) : String :=
  t.label.capitalize

/-! ### Listing -/

/-- The value of a record with its description. -/
def valueAndMeaning (color : Bool) (r : TokenRecord) : String :=
  match r.description with
  | none | some "" => r.value
  | some d => r.value ++ "  " ++ colorize color (some .dim) d

/-- The active records of a theme, of one category or of all, by name. -/
def listed (s : Session) (theme : Theme) (category : Option Category) : List TokenRecord :=
  let records := s.registry.ofTheme theme
  let records :=
    match category with
    | none => records
    | some c => records.filter fun r => r.category = c
  records.mergeSort fun r q => nameLe r.name q.name

/-- Report the active records of a theme. -/
def reportList (color : Bool) (s : Session) (theme : Option Theme) (category : Option Category) :
    Report :=
  match theme with
  | none => .failed "[] is not a valid Theme"
  | some theme =>
      let records := s.listed theme category
      .done
        (.header (themeTitle theme ++ " tokens (" ++ toString records.length ++ ")")
          :: records.map fun r => .usualRow r.name (valueAndMeaning color r)) 0

/-! ### Searching -/

/-- The value of a record with its theme in front. -/
def themeAndValue (r : TokenRecord) : String :=
  "[" ++ r.theme.label ++ "] " ++ r.value

/-- The front of a list; a negative limit leaves out as many elements at the end. -/
def limited {α : Type} (limit : Int) (as : List α) : List α :=
  if 0 ≤ limit then as.take limit.toNat else as.take (as.length - limit.natAbs)

/-- What is said about results that are not shown. -/
def moreLines (count limit : Int) : Option (List ConsoleLine) :=
  if limit < count then
    (Integer.text? (count - limit)).map fun t => [.dim ("... " ++ String.ofList t ++ " more")]
  else some []

/-- Report the records whose name matches a keyword. -/
def reportSearch (s : Session) (keyword : String) (theme : Option Theme) (limit : Option Int) :
    Report :=
  let results := s.registry.search keyword theme
  let header :=
    ConsoleLine.header ("Tokens matching '" ++ keyword ++ "' (" ++ toString results.length ++ ")")
  match results, limit with
  | [], _ => .done [.warning ("No tokens match '" ++ keyword ++ "'")] 1
  | _, none =>
      (Report.failed "slice indices must be integers or None or have an __index__ method").behind
        [header]
  | results, some limit =>
      .ofGroups 0
        [ some (header :: (limited limit results).map fun r => .usualRow r.name (themeAndValue r)),
          moreLines results.length limit ]

/-! ### Showing one token -/

/-- The width of the left column where one token is shown. -/
def narrowWidth : Nat :=
  8

/-- The active value of a token in a theme. -/
def themeRow (color : Bool) (s : Session) (name : String) (theme : Theme) : ConsoleLine :=
  match s.registry.get? name (some theme) with
  | none => .row theme.label (colorize color (some .dim) "(not defined)") narrowWidth
  | some r => .row theme.label r.value narrowWidth

/-- The first description that says something. -/
def meaning? (rs : List TokenRecord) : Option String :=
  (rs.filterMap TokenRecord.description).find? fun d => !d.isEmpty

/-- A contribution to a token. -/
def contributionRow (r : TokenRecord) : Option (List ConsoleLine) :=
  (Integer.text? r.priority).map fun rank =>
    [.usualRow (r.sourceId ++ " (priority " ++ String.ofList rank ++ ")") (themeAndValue r)]

/-- Report the values of one token and where they come from. -/
def reportToken (color : Bool) (s : Session) (typed : String) : Report :=
  let name := tokenName typed
  match s.registry.getAll name with
  | [] => .done [.error ("Unknown token: " ++ name)] 1
  | first :: more =>
      let contributions := first :: more
      let head : List ConsoleLine :=
        [.header name] ++ Theme.all.map (s.themeRow color name)
          ++ [.row "category" first.category.label narrowWidth]
          ++ ((meaning? contributions).map fun d => .row "meaning" d narrowWidth).toList
          ++ [.header "Contributions"]
      .ofGroups 0 (some head :: contributions.map contributionRow)

/-! ### Scanning files -/

/-- The width of the left column where references and sources are shown. -/
def wideWidth : Nat :=
  48

/-- How many references were found, and how many of them to unknown tokens. -/
structure Tally where
  /-- All references. -/
  total : Nat
  /-- The references to unknown tokens. -/
  unknown : Nat
  deriving Repr, DecidableEq

/-- The name of the token to which a hit refers. -/
def hitName (h : Hit) : String :=
  String.ofList h.name

/-- Is the token of a hit defined nowhere? -/
def isUnknown (s : Session) (h : Hit) : Bool :=
  (s.registry.get? (hitName h) none).isNone

/-- A reference with the value of its token. -/
def hitRow (color : Bool) (s : Session) (h : Hit) : ConsoleLine :=
  let value :=
    match s.registry.get? (hitName h) none with
    | none => colorize color (some .yellow) "unknown"
    | some r => r.value
  let fallback :=
    match h.fallback with
    | none | some [] => ""
    | some t => " (fallback " ++ String.ofList t ++ ")"
  .row (toString (h.line + 1) ++ ":" ++ toString (h.start + 1) ++ " " ++ hitName h)
    (value ++ fallback) wideWidth

/-- The hits that are reported: all, or those whose token was never registered. -/
def reportedHits (s : Session) (unknownOnly : Bool) (hits : List Hit) : List Hit :=
  if unknownOnly then hits.filter fun h => !s.registry.has (hitName h) else hits

/-- The lines about the hits in a file. -/
def fileLines (color : Bool) (s : Session) (p : Path) (hits : List Hit) : List ConsoleLine :=
  if hits.isEmpty then [] else .header p.toString :: hits.map (s.hitRow color)

/-- Add the hits of a file to a tally. -/
def Tally.add (s : Session) (t : Tally) (hits : List Hit) : Tally :=
  ⟨t.total + hits.length, t.unknown + (hits.filter s.isUnknown).length⟩

/-- Report the references in files, one after another, behind what was found before. -/
def reportFiles (color : Bool) (s : Session) (unknownOnly : Bool) (found : Tally) :
    List String → Report
  | [] =>
      .done
        [.info (toString found.total ++ " references, " ++ toString found.unknown ++ " unknown")]
        (if unknownOnly && found.unknown != 0 then 1 else 0)
  | file :: files =>
      let p := Path.ofString file
      match s.workspace.files.isFile p, Document.ofFile s.workspace.files p 1 with
      | .error why, _ => .failed why.message
      | .ok false, _ => .done [.error ("Not a file: " ++ p.toString)] 1
      | .ok true, .error e => .failed e.message
      | .ok true, .ok d =>
          if !d.isSupported then
            (reportFiles color s unknownOnly found files).behind
              [.dim ("Skipping unsupported file: " ++ p.toString)]
          else
            let hits := s.reportedHits unknownOnly d.hits
            (reportFiles color s unknownOnly (found.add s hits) files).behind
              (s.fileLines color p hits)

/-- Report the references in files. -/
def reportScan (color : Bool) (s : Session) (files : List String) (unknownOnly : Bool) : Report :=
  reportFiles color s unknownOnly ⟨0, 0⟩ files

/-! ### Sources -/

/-- The lines about one source. -/
def sourceLines (i : Workspace.SourceInfo) : Option (List ConsoleLine) :=
  (Integer.text? i.priority).map fun priority =>
    let rank := String.ofList (Text.padLeft 4 priority)
    let state := if i.enabled then "" else " (disabled)"
    [ .row (rank ++ "  " ++ i.description ++ state) (toString i.tokens ++ " tokens") wideWidth,
      .dim ("      " ++ i.id) ]

/-- Report the attached sources by rank. -/
def reportSources (s : Session) : Report :=
  let infos := s.workspace.sourcesInfo
  let sorted := infos.mergeSort fun a b => decide (a.priority ≤ b.priority)
  .ofGroups 0
    ([some [.header ("Token sources (" ++ toString infos.length ++ ")")]] ++ sorted.map sourceLines
      ++ [some [.info (toString s.registry.uniqueSize ++ " token names, "
        ++ toString s.registry.size ++ " records")]])

/-! ### Watching -/

/-- What is said when watching begins. -/
def watchLines (s : Session) : List ConsoleLine :=
  [ .header ("Watching " ++ s.root.toString),
    .info (toString s.workspace.sources.size ++ " sources, " ++ toString s.registry.uniqueSize
      ++ " tokens"),
    .dim "Press Ctrl+C to stop" ]

/-- What is said when a listener is told something. -/
def noticeLine : Notice → ConsoleLine
  | .tokens names records =>
      .success
        ("Tokens updated: " ++ toString names ++ " names, " ++ toString records ++ " records")
  | .sources count => .info ("Source set changed: " ++ toString count ++ " sources")

/-- The code with which an interrupted program ends. -/
def interruptedCode : Nat :=
  130

end Session

end DesignTokens
