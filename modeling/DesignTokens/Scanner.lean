import DesignTokens.Document
import DesignTokens.OrderedMap
import DesignTokens.Style.Comment
import DesignTokens.Style.Reference

/-!
# Finding references in documents

A hit is a reference with its place in a line.  Comments are blanked first, so that columns stay
those of the document; a reference inside the fallback of another is reported behind the
reference that contains it.  The scanner remembers the hits of a document under its address, for
the version it scanned last.
-/

namespace DesignTokens

open Style

/-- A reference found in a line. -/
structure Hit where
  /-- The line number, counted from zero. -/
  line : Int
  /-- The column where the reference begins. -/
  start : Nat
  /-- The column behind its end. -/
  stop : Nat
  /-- The column where the name begins. -/
  nameStart : Nat
  /-- The column behind the name. -/
  nameStop : Nat
  /-- The name. -/
  name : Text
  /-- The whole reference. -/
  text : Text
  /-- The fallback without white space around it, unless it is blank. -/
  fallback : Option Text
  deriving Repr, DecidableEq

namespace Hit

/-- The hit of a reference that begins at a column of a line. -/
def ofReference (line : Int) (column : Nat) (r : Reference) : Hit :=
  let nameStart := column + Reference.opening.length + r.lead.length
  { line, start := column, stop := column + r.text.length,
    nameStart, nameStop := nameStart + r.name.length,
    name := r.name, text := r.text, fallback := r.trimmedFallback? }

/-- The column where the fallback of a reference begins. -/
def fallbackColumn (column : Nat) (r : Reference) : Nat :=
  column + Reference.opening.length + r.lead.length + r.name.length + r.gap.length + 1

end Hit

/-- The fallback of a reference is shorter than the text that begins with the reference. -/
theorem fallback_length_lt {t rest : Text} {r : Reference} {isName : Char → Bool}
    (h : reference? isName t = some (r, rest)) : (r.fallback.getD []).length < t.length := by
  have ht := congrArg List.length (reference?_append h)
  cases hf : r.fallback with
  | none =>
      simp only [Reference.text, hf, Option.elim, List.length_append, List.length_cons,
        List.length_nil] at ht
      simp only [Option.getD_none, List.length_nil]
      omega
  | some f =>
      simp only [Reference.text, hf, Option.elim, List.length_append, List.length_cons,
        List.length_nil] at ht
      simp only [Option.getD_some]
      omega

/-- The hits of a text that stands at a column of a line: each reference, the hits inside its
fallback, then those behind it. -/
def hitsAt (line : Int) (column : Nat) (t : Text) : List Hit :=
  match h : reference? isAsciiNameChar t with
  | some (r, rest) =>
      have : rest.length < t.length := reference?_shorter h
      have : (r.fallback.getD []).length < t.length := fallback_length_lt h
      Hit.ofReference line column r
        :: (hitsAt line (Hit.fallbackColumn column r) (r.fallback.getD [])
          ++ hitsAt line (column + r.text.length) rest)
  | none =>
      match t with
      | [] => []
      | _ :: cs => hitsAt line (column + 1) cs
termination_by t.length

/-- The hits of a line, outside its comments. -/
def lineHits (t : Text) (line : Int) : List Hit :=
  hitsAt line 0 (blankComments t)

/-- The hits of numbered lines. -/
def linesHits (line : Int) : List Text → List Hit
  | [] => []
  | t :: ts => lineHits t line ++ linesHits (line + 1) ts

namespace Document

/-- The first lines of a document with the comments blanked that begin in them. -/
def blankedLines (d : Document) (count : Nat) : List Text :=
  (blankComments (['\n'].intercalate (d.lines.take count))).splitOn '\n'

/-- The hits on the lines from `first` to `last`, both included. -/
def hitsBetween (d : Document) (first last : Int) : List Hit :=
  if last < first || (d.lineCount : Int) ≤ first then []
  else
    let count := (last + 1).toNat
    linesHits (max first 0) (((d.blankedLines count).take count).drop first.toNat)

/-- The hits of a whole document. -/
def hits (d : Document) : List Hit :=
  d.hitsBetween 0 (d.lineCount - 1)

/-- The hits on the lines of a range; the range may reach beyond the document. -/
def hitsInRange (d : Document) (first last : Int) : List Hit :=
  d.hitsBetween first (min last (d.lineCount - 1))

end Document

/-- The hits that a scanner remembers: for each address the version that it scanned last. -/
structure Scanner where
  /-- The remembered version and hits of each address. -/
  memory : OrderedMap String (Int × List Hit)

namespace Scanner

/-- A scanner that remembers nothing. -/
def empty : Scanner :=
  ⟨.empty⟩

/-- The outcome of scanning a document. -/
structure Outcome where
  /-- The hits. -/
  hits : List Hit
  /-- Were they remembered? -/
  remembered : Bool

/-- The remembered hits of a document, if they are of its version. -/
def remembered? (s : Scanner) (d : Document) : Option (List Hit) :=
  match s.memory.get? d.uri with
  | some (version, hits) => if version = d.version then some hits else none
  | none => none

/-- Scan a document, unless its hits are remembered for its version. -/
def scan (s : Scanner) (d : Document) : Outcome × Scanner :=
  match s.remembered? d with
  | some hits => (⟨hits, true⟩, s)
  | none => (⟨d.hits, false⟩, ⟨s.memory.insert d.uri (d.version, d.hits)⟩)

/-- Forget one address, or all of them. -/
def forget (s : Scanner) : Option String → Scanner
  | some uri => ⟨s.memory.erase uri⟩
  | none => empty

end Scanner

end DesignTokens
