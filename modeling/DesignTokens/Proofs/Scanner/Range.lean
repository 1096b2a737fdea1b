import DesignTokens.Proofs.Scanner.Completeness
import Mathlib.Data.List.Sort

/-!
# Scanning the lines of a range

A scan of a range reads the document only up to the last line of the range, so it takes a comment
that is closed further down for plain text.  On the lines of a range, a scan of the whole document
finds exactly those hits of the range that are closed outside the comments of the whole document
(`filter_hits_eq`): the two texts that are searched differ only behind the opening of such a
comment, where one has the comment and the other has blanks, and nothing that ends before it is
changed.
-/

namespace DesignTokens

open Style Document

variable {c t u v w x : Text} {line : Int} {h : Hit} {d : Document} {first last : Int}

/-! ### Blanked ends of lines -/

/-- The second line is the first one, with blanks in the place of what stands behind some column. -/
def BlankedBehind (u v : Text) : Prop :=
  ∃ c x, u = c ++ x ∧ v = c ++ (Piece.comment x).blanked

/-- What is blanked has no parenthesis. -/
lemma parenthesis_not_mem_blanked (x : Text) : ')' ∉ (Piece.comment x).blanked := by
  intro h
  obtain ⟨c, -, hc⟩ := List.mem_map.mp h
  split at hc <;> revert hc <;> decide

/-- Blanking a text blanks each of its lines. -/
lemma forall₂_splitOn_blanked (x : Text) :
    List.Forall₂ (fun u v => v = (Piece.comment u).blanked) (x.splitOn '\n')
      ((Piece.comment x).blanked.splitOn '\n') := by
  induction x with
  | nil => exact .cons rfl .nil
  | cons c x ih =>
    by_cases hc : c = '\n'
    · subst hc
      have hblank : (Piece.comment ('\n' :: x)).blanked = '\n' :: (Piece.comment x).blanked := by
        simp [Piece.blanked]
      rw [hblank, Text.splitOn_cons_self, Text.splitOn_cons_self]
      exact .cons rfl ih
    · have hblank : (Piece.comment (c :: x)).blanked = ' ' :: (Piece.comment x).blanked := by
        simp [Piece.blanked, hc]
      rw [hblank, Text.splitOn_cons_of_ne hc, Text.splitOn_cons_of_ne (by decide)]
      generalize x.splitOn '\n' = us at ih
      generalize (Piece.comment x).blanked.splitOn '\n' = vs at ih
      cases ih with
      | nil => exact .nil
      | cons hfirst hrest =>
        refine .cons ?_ hrest
        rw [hfirst]
        simp [Piece.blanked, hc]

/-- Blanking what stands behind a place of a text blanks each line behind some column. -/
lemma forall₂_blankedBehind (c x : Text) :
    List.Forall₂ BlankedBehind ((c ++ x).splitOn '\n')
      ((c ++ (Piece.comment x).blanked).splitOn '\n') := by
  induction c with
  | nil =>
    refine (forall₂_splitOn_blanked x).imp fun u v huv => ?_
    exact ⟨[], u, rfl, huv⟩
  | cons b c ih =>
    rw [List.cons_append, List.cons_append]
    by_cases hb : b = '\n'
    · subst hb
      rw [Text.splitOn_cons_self, Text.splitOn_cons_self]
      exact .cons ⟨[], [], rfl, rfl⟩ ih
    · rw [Text.splitOn_cons_of_ne hb, Text.splitOn_cons_of_ne hb]
      generalize (c ++ x).splitOn '\n' = us at ih
      generalize (c ++ (Piece.comment x).blanked).splitOn '\n' = vs at ih
      cases ih with
      | nil => exact .nil
      | cons hfirst hrest =>
        obtain ⟨front, behind, rfl, rfl⟩ := hfirst
        exact .cons ⟨b :: front, behind, rfl, rfl⟩ hrest

/-- A text that ends with a parenthesis stands in front of what is blanked, or not at all. -/
lemma prefix_of_prefix_append_blanked (h : w ++ [')'] <+: c ++ (Piece.comment x).blanked) :
    w ++ [')'] <+: c := by
  rcases List.prefix_or_prefix_of_prefix h (List.prefix_append c _) with hw | ⟨s, hs⟩
  · exact hw
  · cases List.eq_nil_or_concat s with
    | inl hnil => exact ⟨[], by rw [← hs, hnil, List.append_nil, List.append_nil]⟩
    | inr hconcat =>
      -- The parenthesis would be one of the blanks.
      obtain ⟨s', b, rfl⟩ := hconcat
      rw [← hs] at h
      have hblanks := (List.prefix_append_right_inj c).mp h
      rw [List.concat_eq_append, ← List.append_assoc] at hs
      have hlast := List.append_inj_right' hs rfl
      rw [List.concat_eq_append, hlast] at hblanks
      exact absurd (hblanks.subset (by simp)) (parenthesis_not_mem_blanked x)

/-! ### Hits -/

/-- In a line with a blanked end are the hits of the line that are still closed there. -/
lemma mem_everyHit_of_blankedBehind (huv : BlankedBehind u v) :
    h ∈ everyHit line 0 v ↔ h ∈ everyHit line 0 u ∧ v[h.stop - 1]? = some ')' := by
  obtain ⟨c, x, rfl, rfl⟩ := huv
  rw [mem_everyHit, mem_everyHit]
  constructor
  · rintro ⟨before, r, after, hr, heq, rfl⟩
    obtain ⟨w, hw⟩ : ∃ w, r.text = w ++ [')'] := ⟨_, rfl⟩
    have hprefix : before ++ w ++ [')'] <+: c ++ (Piece.comment x).blanked :=
      ⟨after, by rw [heq, hw, List.append_assoc before]⟩
    obtain ⟨rest, hrest⟩ := prefix_of_prefix_append_blanked hprefix
    refine ⟨⟨before, r, rest ++ x, hr, ?_, rfl⟩, ?_⟩
    · rw [← hrest, hw]
      simp only [List.append_assoc]
    · simp [← hrest, Hit.ofReference, hw]
  · rintro ⟨⟨before, r, after, hr, heq, rfl⟩, hclosed⟩
    obtain ⟨w, hw⟩ : ∃ w, r.text = w ++ [')'] := ⟨_, rfl⟩
    have hstop : (Hit.ofReference line (0 + before.length) r).stop - 1 = (before ++ w).length := by
      simp [Hit.ofReference, hw]
    rw [hstop] at hclosed
    have hfront : (before ++ w).length < c.length := by
      by_contra hle
      rw [List.getElem?_append_right (Nat.le_of_not_lt hle)] at hclosed
      exact parenthesis_not_mem_blanked x (List.mem_of_getElem? hclosed)
    have hprefix : before ++ w ++ [')'] <+: c := by
      refine List.prefix_of_prefix_length_le ⟨after, ?_⟩ (List.prefix_append c x) ?_
      · rw [heq, hw, List.append_assoc before]
      · rw [List.length_append]
        exact hfront
    obtain ⟨rest, hrest⟩ := hprefix
    refine ⟨before, r, rest ++ (Piece.comment x).blanked, hr, ?_, rfl⟩
    rw [← hrest, hw]
    simp only [List.append_assoc]

/-! ### The lines of a document -/

/-- Is the parenthesis that closes a hit outside the comments of the document?  Then it is still in
its place when the comments of the whole document are blanked. -/
def Document.closesOutsideComments (d : Document) (h : Hit) : Bool :=
  ((d.blankedLines d.lineCount)[h.line.toNat]?.bind fun t => t[h.stop - 1]?) == some ')'

/-- A document has a line. -/
lemma Document.lineCount_pos (d : Document) : 0 < d.lineCount := by
  rw [lineCount, lines, List.length_map, List.length_pos_iff]
  exact List.splitOn_ne_nil '\n' d.text

/-- No line of a document has a line feed. -/
lemma Document.lineFeed_not_mem_lines (d : Document) : ∀ l ∈ d.lines, '\n' ∉ l := by
  intro l hl hmem
  obtain ⟨p, hp, rfl⟩ := List.mem_map.mp hl
  obtain ⟨a, -, heq⟩ := exists_eq_lineOf_append p
  exact Text.not_mem_of_mem_splitOn hp (heq ▸ List.mem_append_left a hmem)

/-- As many lines are read as there are to blank. -/
lemma Document.length_blankedLines {count : Nat} (hpos : 0 < count) (hle : count ≤ d.lineCount) :
    (d.blankedLines count).length = count := by
  have hfeed : ∀ l ∈ d.lines.take count, '\n' ∉ l := fun l hl =>
    d.lineFeed_not_mem_lines l (List.mem_of_mem_take hl)
  have hsome : d.lines.take count ≠ [] := by
    rw [← List.length_pos_iff, List.length_take]
    exact Nat.lt_min.mpr ⟨hpos, d.lineCount_pos⟩
  have hlengths := congrArg List.length
    (map_length_lines_blankComments (['\n'].intercalate (d.lines.take count)))
  rw [List.length_map, List.length_map, List.splitOn_intercalate '\n' hfeed hsome,
    List.length_take] at hlengths
  rw [blankedLines, hlengths]
  exact Nat.min_eq_left hle

/-- The first lines of a document are blanked alone as they are in the whole document, but for what
stands behind some column and is blank there. -/
lemma Document.forall₂_blankedLines {count : Nat} (hpos : 0 < count) (hle : count ≤ d.lineCount) :
    List.Forall₂ BlankedBehind (d.blankedLines count)
      ((d.blankedLines d.lineCount).take count) := by
  have hlength := d.length_blankedLines hpos hle
  rcases Nat.eq_or_lt_of_le hle with rfl | hlt
  · rw [List.take_of_length_le hlength.le]
    exact List.forall₂_same.mpr fun u _ =>
      ⟨u, [], (List.append_nil u).symm, (List.append_nil u).symm⟩
  · have hfirst : d.lines.take count ≠ [] := by
      rw [← List.length_pos_iff, List.length_take]
      exact Nat.lt_min.mpr ⟨hpos, d.lineCount_pos⟩
    have hrest : d.lines.drop count ≠ [] := by
      rw [← List.length_pos_iff, List.length_drop]
      exact Nat.sub_pos_of_lt hlt
    have hwhole := Text.intercalate_append (a := '\n') hfirst hrest
    rw [List.take_append_drop] at hwhole
    obtain ⟨c, x, z, halone, hjoint⟩ := blankComments_append_line
      (['\n'].intercalate (d.lines.take count)) (['\n'].intercalate (d.lines.drop count))
    have hlines := forall₂_blankedBehind c x
    rw [← halone, ← blankedLines] at hlines
    have hsplit : d.blankedLines d.lineCount
        = (c ++ (Piece.comment x).blanked).splitOn '\n' ++ z.splitOn '\n' := by
      rw [blankedLines, lineCount, List.take_length, hwhole, hjoint, List.splitOn_append_cons_self]
    rw [hsplit, List.take_left' (hlines.length_eq.symm.trans hlength)]
    exact hlines

/-- How many lines of a document a scan up to some line reads. -/
def Document.linesUpTo (d : Document) (last : Int) : Nat :=
  (min last (d.lineCount - 1) + 1).toNat

/-- A range reads no more lines than the document has. -/
lemma Document.linesUpTo_le (d : Document) (last : Int) : d.linesUpTo last ≤ d.lineCount := by
  have hpos := d.lineCount_pos
  rw [linesUpTo]
  omega

/-- On the lines of a range every position is tried. -/
lemma Document.hitsInRange_eq (d : Document) (first last : Int) :
    d.hitsInRange first last
      = if min last (d.lineCount - 1) < first ∨ (d.lineCount : Int) ≤ first then []
        else everyHitOfLines (max first 0)
          (((d.blankedLines (d.linesUpTo last)).take (d.linesUpTo last)).drop first.toNat) := by
  have hblanked : ∀ t ∈ ((d.blankedLines (d.linesUpTo last)).take (d.linesUpTo last)).drop
      first.toNat, blankComments t = t := fun t ht =>
    blankComments_line (List.mem_of_mem_take (List.mem_of_mem_drop ht))
  have hsame : ∀ ts : List Text, List.Forall₂ TrimmedLine ts ts := fun ts =>
    List.forall₂_same.mpr fun t _ => ⟨[], by simp, (List.append_nil t).symm⟩
  rw [hitsInRange, hitsBetween]
  by_cases houtside : min last (d.lineCount - 1) < first ∨ (d.lineCount : Int) ≤ first
  · rw [if_pos houtside, if_pos (by simpa using houtside)]
  · rw [if_neg houtside, if_neg (by simpa using houtside)]
    exact linesHits_eq hblanked (hsame _) _

/-- The hits of a range begin on its lines, somewhere in the text up to its last line. -/
lemma Document.mem_hitsInRange :
    h ∈ d.hitsInRange first last ↔ ∃ (i : Nat) (t : Text), first ≤ i ∧ (i : Int) ≤ last ∧
      i < d.lineCount ∧ (d.blankedLines (d.linesUpTo last))[i]? = some t ∧ h ∈ everyHit i 0 t := by
  have hcount : (d.linesUpTo last : Int) = max (min last (d.lineCount - 1) + 1) 0 := by
    rw [linesUpTo, Int.toNat_eq_max]
  rw [hitsInRange_eq]
  by_cases houtside : min last (d.lineCount - 1) < first ∨ (d.lineCount : Int) ≤ first
  · rw [if_pos houtside]
    constructor
    · intro hmem
      cases hmem
    · rintro ⟨i, t, hfirst, hlast, hi, -, -⟩
      omega
  · rw [if_neg houtside, mem_everyHitOfLines]
    simp only [List.getElem?_drop, List.getElem?_take]
    constructor
    · rintro ⟨j, t, hline, hmem⟩
      split at hline
      · next hj =>
        refine ⟨first.toNat + j, t, by omega, by omega, by omega, hline, ?_⟩
        rwa [Int.natCast_add, Int.toNat_eq_max]
      · cases hline
    · rintro ⟨i, t, hfirst, hlast, hi, hline, hmem⟩
      have hsum : first.toNat + (i - first.toNat) = i := by omega
      refine ⟨i - first.toNat, t, ?_, ?_⟩
      · rw [hsum, if_pos (by omega), hline]
      · have hplace : max first 0 + ((i - first.toNat : Nat) : Int) = i := by omega
        rwa [hplace]

/-- The hits of a range are in the order of their lines, and in a line in the order of their
columns. -/
lemma Document.pairwise_hitsInRange (d : Document) (first last : Int) :
    (d.hitsInRange first last).Pairwise fun h k =>
      h.line < k.line ∨ h.line = k.line ∧ h.start < k.start := by
  rw [hitsInRange_eq]
  split
  · exact .nil
  · exact pairwise_everyHitOfLines

/-- A scan of a document is a scan of the range of all its lines. -/
lemma Document.hits_eq_hitsInRange (d : Document) :
    d.hits = d.hitsInRange 0 (d.lineCount - 1) := by
  rw [hits, hitsInRange, min_self]

/-! ### The law -/

/-- Each line up to the last one of a range is blanked alone and in the whole document. -/
lemma Document.exists_blankedLine {i : Nat} (hlast : (i : Int) ≤ last) (hi : i < d.lineCount) :
    ∃ u v, (d.blankedLines (d.linesUpTo last))[i]? = some u ∧
      (d.blankedLines d.lineCount)[i]? = some v ∧ BlankedBehind u v := by
  have hcount : i < d.linesUpTo last := by
    rw [linesUpTo]
    omega
  have hlines := d.forall₂_blankedLines (Nat.zero_lt_of_lt hcount) (d.linesUpTo_le last)
  have halone := d.length_blankedLines (Nat.zero_lt_of_lt hcount) (d.linesUpTo_le last)
  have hwhole := d.length_blankedLines d.lineCount_pos le_rfl
  have hu : i < (d.blankedLines (d.linesUpTo last)).length := hcount.trans_eq halone.symm
  have hv : i < (d.blankedLines d.lineCount).length := hi.trans_eq hwhole.symm
  refine ⟨_, _, List.getElem?_eq_getElem hu, List.getElem?_eq_getElem hv, ?_⟩
  have hrelated := hlines.get hu (hu.trans_eq hlines.length_eq)
  rwa [List.get_eq_getElem, List.get_eq_getElem, List.getElem_take] at hrelated

/-- On the lines of a range, a scan of the whole document finds the hits of the range that are
closed outside the comments of the whole document. -/
theorem Document.filter_hits_eq (d : Document) (first last : Int) :
    d.hits.filter (fun h => first ≤ h.line ∧ h.line ≤ last)
      = (d.hitsInRange first last).filter fun h => d.closesOutsideComments h := by
  have hwhole : d.linesUpTo (d.lineCount - 1) = d.lineCount := by
    have hpos := d.lineCount_pos
    rw [linesUpTo]
    omega
  let Precedes (h k : Hit) : Prop := h.line < k.line ∨ h.line = k.line ∧ h.start < k.start
  have : Std.Irrefl Precedes := ⟨fun h hh => by simp [Precedes] at hh⟩
  have : Std.Antisymm Precedes := ⟨fun h k hhk hkh => by simp only [Precedes] at hhk hkh; omega⟩
  -- Both lists are in the order of places, so it is enough that they have the same hits.
  refine List.Pairwise.eq_of_mem_iff (r := Precedes) ?_ ?_ fun h => ?_
  · rw [hits_eq_hitsInRange]
    exact (d.pairwise_hitsInRange _ _).filter _
  · exact (d.pairwise_hitsInRange _ _).filter _
  · rw [List.mem_filter, List.mem_filter, decide_eq_true_eq, hits_eq_hitsInRange,
      mem_hitsInRange, mem_hitsInRange, hwhole]
    constructor
    · rintro ⟨⟨i, v, -, -, hi, hline, hmem⟩, hfirst, hlast⟩
      rw [line_of_mem_everyHit hmem] at hfirst hlast
      obtain ⟨u, v', hu, hv', huv⟩ := d.exists_blankedLine hlast hi
      obtain rfl := Option.some.inj (hline.symm.trans hv')
      obtain ⟨hmem', hclosed⟩ := (mem_everyHit_of_blankedBehind huv).mp hmem
      refine ⟨⟨i, u, hfirst, hlast, hi, hu, hmem'⟩, ?_⟩
      rw [closesOutsideComments, line_of_mem_everyHit hmem, Int.toNat_natCast, hline,
        Option.bind_some, hclosed, beq_self_eq_true]
    · rintro ⟨⟨i, u, hfirst, hlast, hi, hline, hmem⟩, hclosed⟩
      obtain ⟨u', v, hu', hv, huv⟩ := d.exists_blankedLine hlast hi
      obtain rfl := Option.some.inj (hline.symm.trans hu')
      rw [closesOutsideComments, line_of_mem_everyHit hmem, Int.toNat_natCast, hv,
        Option.bind_some, beq_iff_eq] at hclosed
      rw [line_of_mem_everyHit hmem]
      have hmem' := (mem_everyHit_of_blankedBehind huv).mpr ⟨hmem, hclosed⟩
      exact ⟨⟨i, v, by omega, by omega, hi, hv, hmem'⟩, hfirst, hlast⟩

/-- A scan of a range finds what a scan of the whole document finds on its lines, exactly when no
hit of the range is closed in a comment of the whole document. -/
theorem Document.hitsInRange_eq_filter_iff (d : Document) (first last : Int) :
    d.hitsInRange first last
        = (Scanner.empty.scan d).1.hits.filter (fun h => first ≤ h.line ∧ h.line ≤ last)
      ↔ ∀ h ∈ d.hitsInRange first last, d.closesOutsideComments h := by
  have hlaw : (Scanner.empty.scan d).1.hits.filter (fun h => first ≤ h.line ∧ h.line ≤ last)
      = (d.hitsInRange first last).filter fun h => d.closesOutsideComments h :=
    d.filter_hits_eq first last
  rw [hlaw, eq_comm, List.filter_eq_self]

/-- A comment that is closed below the range does not hide the hits in it. -/
theorem Document.hitsInRange_ne_of_comment_closed_below :
    let d : Document := ⟨"u", "/* var(--a)\n*/".toList, "css", 1⟩
    d.hitsInRange 0 0
      ≠ (Scanner.empty.scan d).1.hits.filter (fun h => 0 ≤ h.line ∧ h.line ≤ 0) := by
  decide +kernel

end DesignTokens
