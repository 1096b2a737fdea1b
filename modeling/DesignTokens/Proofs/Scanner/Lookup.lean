import DesignTokens.Proofs.Scanner.Range
import DesignTokens.Proofs.Style.Commented

/-!
# Looking lines up

A scan takes the lines that it goes through out of the list of blanked lines.  `lookedUpHits` is the
scan that looks up each line by its number, in the document and again among the blanked lines, and
has no result when a number is past the end.  It always has one, the hits of the scan
(`lookedUpHits_eq`): blanking keeps the line feeds, so there are as many blanked lines as lines were
read.  It makes no difference either whether the blanked lines are blanked again one by one.
-/

namespace DesignTokens

open Style

variable {d : Document} {first last : Int} {ts us : List Text} {search : Text → Int → List Hit}

/-- The hits on the lines from `first` to `last`, where each line is looked up by its number before
it is searched.  There is no result when a number has no line. -/
def Document.lookedUpHits (d : Document) (search : Text → Int → List Hit) (first last : Int) :
    Option (List Hit) :=
  if last < first ∨ (d.lineCount : Int) ≤ first then some []
  else do
    let count := (last + 1).toNat
    let read ← (List.range count).mapM fun (i : Nat) => d.line? i
    let blanked := (blankComments (['\n'].intercalate read)).splitOn '\n'
    let found ← (List.range' first.toNat (count - first.toNat)).mapM fun (i : Nat) =>
      blanked[i]?.map fun t => search t i
    return found.flatten

/-- The first lines of a document are looked up in it. -/
lemma Document.mapM_line? {count : Nat} (h : count ≤ d.lineCount) :
    (List.range count).mapM (fun (i : Nat) => d.line? i) = some (d.lines.take count) := by
  induction count with
  | zero => rfl
  | succ count ih =>
    have hcount : count < d.lines.length := h
    have hline : d.line? (count : Int) = some d.lines[count] := by
      rw [line?, if_pos (Int.natCast_nonneg count), Int.toNat_natCast,
        List.getElem?_eq_getElem hcount]
    rw [List.range_succ, List.mapM_append, ih hcount.le, List.take_succ_eq_append_getElem hcount]
    simp [hline]

/-- Lines that stand in a list from a number on are looked up there and searched. -/
lemma mapM_lookup {k : Nat} (hsearch : ∀ t ∈ us, ∀ line, search t line = lineHits t line)
    (h : us <+: ts.drop k) :
    ((List.range' k us.length).mapM fun (i : Nat) => ts[i]?.map fun t => search t i).map
      List.flatten = some (linesHits k us) := by
  induction us generalizing k with
  | nil => rfl
  | cons u us ih =>
    obtain ⟨rest, hrest⟩ := h
    have hline : ts[k]? = some u := by
      rw [← List.head?_drop, ← hrest]
      rfl
    have hbehind : us <+: ts.drop (k + 1) := by
      refine ⟨rest, ?_⟩
      rw [← List.tail_drop, ← hrest]
      rfl
    rw [List.forall_mem_cons] at hsearch
    obtain ⟨found, hfound, hflat⟩ := Option.map_eq_some_iff.mp (ih hsearch.2 hbehind)
    rw [List.length_cons, List.range'_succ, List.mapM_cons, hline, hfound, linesHits,
      ← hsearch.1]
    simp [hflat]

/-- A scan that looks up its lines finds them all, and in them the hits of the scan. -/
lemma Document.lookedUpHits_eq (hlast : last < d.lineCount)
    (hsearch : ∀ t ∈ d.blankedLines (last + 1).toNat, ∀ line, search t line = lineHits t line) :
    d.lookedUpHits search first last = some (d.hitsBetween first last) := by
  rw [lookedUpHits, hitsBetween]
  by_cases houtside : last < first ∨ (d.lineCount : Int) ≤ first
  · rw [if_pos houtside, if_pos (by simpa using houtside)]
  · rw [if_neg houtside, if_neg (by simpa using houtside)]
    have hcount : (last + 1).toNat ≤ d.lineCount := by omega
    generalize (last + 1).toNat = count at hsearch hcount
    have hlength : (((d.blankedLines count).take count).drop first.toNat).length
        = count - first.toNat := by
      rcases Nat.eq_zero_or_pos count with rfl | hpos
      · simp
      · rw [List.length_drop, List.length_take, d.length_blankedLines hpos hcount, min_self]
    have hprefix : ((d.blankedLines count).take count).drop first.toNat
        <+: (d.blankedLines count).drop first.toNat :=
      (List.take_prefix count _).drop first.toNat
    have hlookup := mapM_lookup (fun t ht => hsearch t
      (List.mem_of_mem_take (List.mem_of_mem_drop ht))) hprefix
    rw [hlength] at hlookup
    obtain ⟨found, hfound, hflat⟩ := Option.map_eq_some_iff.mp hlookup
    dsimp only
    rw [d.mapM_line? hcount, Option.bind_eq_bind, Option.bind_some, ← blankedLines, hfound,
      ← Int.toNat_eq_max, ← hflat]
    rfl

/-- Blanking comments moves no character and no line feed, makes spaces of the comments and leaves
all else, and leaves no comment: so it changes nothing when it is done again, to the whole text or
to its lines.  Scans of documents and of ranges therefore find each line that they look up, and find
in it what they would if they did not blank it again. -/
theorem blankComments_in_place_and_stable :
    (∀ t : Text,
      (blankComments t).length = t.length ∧
        (∀ i : Nat, (blankComments t)[i]? = some '\n' ↔ t[i]? = some '\n') ∧
        (∃ c : Commented, c.text = t ∧ c.blanked = blankComments t) ∧
        ¬ HasComment (blankComments t) ∧
        blankComments (blankComments t) = blankComments t ∧
        ((blankComments t).splitOn '\n').map blankComments = (blankComments t).splitOn '\n') ∧
      ∀ d : Document,
        (Scanner.empty.scan d).1.hits = d.hitsInRange 0 (d.lineCount - 1) ∧
          ∀ first last : Int,
            let stop := min last (d.lineCount - 1)
            d.lookedUpHits lineHits first stop = some (d.hitsInRange first last) ∧
              d.lookedUpHits (fun t line => hitsAt line 0 t) first stop
                = some (d.hitsInRange first last) := by
  constructor
  · intro t
    obtain ⟨c, rfl⟩ := exists_commented t
    have hlines : ∀ line ∈ (blankComments c.text).splitOn '\n', blankComments line = id line :=
      fun line hline => blankComments_line hline
    refine ⟨length_blankComments _, getElem?_blankComments_eq_lineFeed _,
      ⟨c, rfl, c.blankComments_text.symm⟩, not_hasComment_blankComments _,
      blankComments_of_infix (List.infix_refl _), ?_⟩
    rw [List.map_congr_left hlines, List.map_id]
  · intro d
    refine ⟨d.hits_eq_hitsInRange, ?_⟩
    intro first last stop
    have hstop : stop < d.lineCount := by omega
    refine ⟨d.lookedUpHits_eq hstop fun _ _ _ => rfl, d.lookedUpHits_eq hstop ?_⟩
    intro t ht line
    rw [lineHits, blankComments_line ht]

end DesignTokens
