import DesignTokens.Document
import DesignTokens.Proofs.Style.Comment

/-!
# Line ends do not move columns

The lines of a document have no carriage returns at their ends, so the text that they make up may
be shorter than the content.  `Trimmed` relates two texts that differ only by padding at line ends.
Blanking comments and cutting into lines respect the relation, so the blanked lines of a document
are those of its content without the padding behind them (`forall₂_blanked_lines`).
-/

namespace DesignTokens

namespace Document

open Style

variable {t u : Text} {c : Char} {ls : List Text}

/-- Carriage returns and the spaces of blanked comments are padding. -/
def IsPadding (c : Char) : Prop :=
  c = '\r' ∨ c = ' '

/-- Padding is no line feed. -/
lemma IsPadding.ne_lineFeed (hc : IsPadding c) : c ≠ '\n' := by
  rcases hc with rfl | rfl <;> decide

/-- A text stands at a line end when it is empty or begins with a line feed. -/
def AtLineEnd (t : Text) : Prop :=
  ∀ c ∈ t.head?, c = '\n'

/-- The second text is the first one without some of the padding at its line ends. -/
inductive Trimmed : Text → Text → Prop
  /-- Nothing is left of nothing. -/
  | nil : Trimmed [] []
  /-- A character stays. -/
  | cons {t u : Text} (c : Char) (h : Trimmed t u) : Trimmed (c :: t) (c :: u)
  /-- Padding at a line end goes. -/
  | drop {t u : Text} {c : Char} (hc : IsPadding c) (hu : AtLineEnd u) (h : Trimmed t u) :
      Trimmed (c :: t) u

/-- What is trimmed stays so behind a common front. -/
lemma Trimmed.append_left (h : Trimmed t u) (a : Text) : Trimmed (a ++ t) (a ++ u) := by
  induction a with
  | nil => exact h
  | cons c a ih => exact .cons c ih

/-- A run of padding at a line end goes. -/
lemma Trimmed.drop_all {a : Text} (h : Trimmed t u) (ha : ∀ c ∈ a, IsPadding c)
    (hu : AtLineEnd u) : Trimmed (a ++ t) u := by
  induction a with
  | nil => exact h
  | cons c a ih =>
    rw [List.forall_mem_cons] at ha
    exact .drop ha.1 hu (ih ha.2)

/-- A character that is no padding stays. -/
lemma Trimmed.cons_left (h : Trimmed (c :: t) u) (hc : ¬ IsPadding c) :
    ∃ v, u = c :: v ∧ Trimmed t v := by
  cases h with
  | cons _ h => exact ⟨_, rfl, h⟩
  | drop hpad _ _ => exact absurd hpad hc

/-- Within a line nothing goes. -/
lemma Trimmed.cons_right (h : Trimmed t (c :: u)) (hc : c ≠ '\n') :
    ∃ v, t = c :: v ∧ Trimmed v u := by
  cases h with
  | cons _ h => exact ⟨_, rfl, h⟩
  | drop _ hu _ => exact absurd (hu c rfl) hc

/-! ### The lines of a document -/

/-- A line lacks only carriage returns at its end. -/
lemma exists_eq_lineOf_append (t : Text) :
    ∃ a, (∀ c ∈ a, IsPadding c) ∧ t = lineOf t ++ a := by
  obtain ⟨a, ha, ht⟩ := Text.exists_eq_dropEnd_append (· == '\r') t
  exact ⟨a, fun c hc => Or.inl (by simpa using ha c hc), ht⟩

/-- The lines of a text make up the text without the carriage returns at their ends. -/
lemma trimmed_intercalate (ls : List Text) :
    Trimmed (['\n'].intercalate ls) (['\n'].intercalate (ls.map lineOf)) := by
  induction ls with
  | nil => exact .nil
  | cons l ls ih =>
    obtain ⟨a, ha, hl⟩ := exists_eq_lineOf_append l
    by_cases hls : ls = []
    · subst hls
      rw [List.map_singleton, List.intercalate_singleton, List.intercalate_singleton]
      have hend : Trimmed (a ++ []) [] := Trimmed.nil.drop_all ha (by simp [AtLineEnd])
      have hline := hend.append_left (lineOf l)
      rwa [List.append_nil, List.append_nil, ← hl] at hline
    · have hfeed : Trimmed (a ++ '\n' :: ['\n'].intercalate ls)
          ('\n' :: ['\n'].intercalate (ls.map lineOf)) :=
        (ih.cons '\n').drop_all ha (by simp [AtLineEnd])
      have hline := hfeed.append_left (lineOf l)
      rw [← List.append_assoc, ← hl] at hline
      rw [List.map_cons, List.intercalate_cons_of_ne_nil hls,
        List.intercalate_cons_of_ne_nil (by simpa using hls)]
      simpa using hline

/-! ### Blanking -/

/-- Two spans stay related when they are blanked, whatever related texts follow. -/
def BlankedAlike (i j : Text) : Prop :=
  ∀ x y, Trimmed x y → Trimmed ((Piece.comment i).blanked ++ x) ((Piece.comment j).blanked ++ y)

/-- A common character in front keeps two spans blanked alike. -/
lemma BlankedAlike.cons {i j : Text} (h : BlankedAlike i j) (c : Char) :
    BlankedAlike (c :: i) (c :: j) := by
  intro x y hxy
  exact (h x y hxy).cons _

/-- Padding at a line end makes no difference to what is blanked. -/
lemma BlankedAlike.drop {i j : Text} (h : BlankedAlike i j) (hc : IsPadding c) (hj : j ≠ [])
    (hend : AtLineEnd j) : BlankedAlike (c :: i) j := by
  intro x y hxy
  have hblank : (Piece.comment (c :: i)).blanked = ' ' :: (Piece.comment i).blanked := by
    simp [Piece.blanked, hc.ne_lineFeed]
  rw [hblank]
  refine .drop (Or.inr rfl) ?_ (h x y hxy)
  obtain ⟨d, j, rfl⟩ := List.exists_cons_of_ne_nil hj
  rw [hend d rfl]
  simp [AtLineEnd, Piece.blanked]

/-- A comment is closed in both of two related texts, or in neither. -/
lemma Trimmed.closing (h : Trimmed t u) :
    (closing? t = none ∧ closing? u = none) ∨
      ∃ i r j q, closing? t = some (i, r) ∧ closing? u = some (j, q) ∧ j ≠ [] ∧
        Trimmed r q ∧ BlankedAlike i j := by
  have hslash : ¬ IsPadding '/' := by
    rintro (h | h) <;> revert h <;> decide
  induction h with
  | nil => exact Or.inl ⟨rfl, rfl⟩
  | @cons t u c h ih =>
    rw [closing?_cons, closing?_cons]
    have hhead : t.head? = some '/' ↔ u.head? = some '/' := by
      constructor
      · intro ht
        obtain ⟨t, rfl⟩ := List.head?_eq_some_iff.mp ht
        obtain ⟨v, rfl, -⟩ := h.cons_left hslash
        rfl
      · intro hu
        obtain ⟨u, rfl⟩ := List.head?_eq_some_iff.mp hu
        obtain ⟨v, rfl, -⟩ := h.cons_right (by decide)
        rfl
    by_cases hclose : c = '*' ∧ t.head? = some '/'
    · rw [if_pos hclose, if_pos ⟨hclose.1, hhead.mp hclose.2⟩]
      obtain ⟨t, rfl⟩ := List.head?_eq_some_iff.mp hclose.2
      obtain ⟨v, rfl, hv⟩ := h.cons_left hslash
      refine Or.inr ⟨_, _, _, _, rfl, rfl, List.cons_ne_nil _ _, hv, ?_⟩
      intro x y hxy
      exact hxy.append_left _
    · rw [if_neg hclose, if_neg (by rwa [← hhead])]
      rcases ih with ⟨ht, hu⟩ | ⟨i, r, j, q, ht, hu, -, hrest, halike⟩
      · exact Or.inl ⟨by rw [ht]; rfl, by rw [hu]; rfl⟩
      · exact Or.inr ⟨c :: i, r, c :: j, q, by rw [ht]; rfl, by rw [hu]; rfl,
          List.cons_ne_nil _ _, hrest, halike.cons c⟩
  | @drop t u c hc hu h ih =>
    -- Padding closes no comment, so the comment is closed where it is without the padding.
    have hstar : c ≠ '*' := by
      rcases hc with rfl | rfl <;> decide
    rw [closing?_cons, if_neg fun h => hstar h.1]
    rcases ih with ⟨ht, hu⟩ | ⟨i, r, j, q, ht, hq, hj, hrest, halike⟩
    · exact Or.inl ⟨by rw [ht]; rfl, hu⟩
    · refine Or.inr ⟨c :: i, r, j, q, by rw [ht]; rfl, hq, hj, hrest, halike.drop hc hj ?_⟩
      obtain ⟨d, j, rfl⟩ := List.exists_cons_of_ne_nil hj
      rw [closing?_append hq] at hu
      exact hu

/-- A comment stands at the front of both of two related texts, or of neither. -/
lemma Trimmed.comment (h : Trimmed t u) :
    (comment? t = none ∧ comment? u = none) ∨
      ∃ i r j q, comment? t = some (i, r) ∧ comment? u = some (j, q) ∧ Trimmed r q ∧
        BlankedAlike i j := by
  have hpad : ¬ IsPadding '/' ∧ ¬ IsPadding '*' := by
    constructor <;> rintro (h | h) <;> revert h <;> decide
  by_cases hopen : ∃ v, t = '/' :: '*' :: v
  · obtain ⟨v, rfl⟩ := hopen
    obtain ⟨u, rfl, hstar⟩ := h.cons_left hpad.1
    obtain ⟨w, rfl, hv⟩ := hstar.cons_left hpad.2
    rcases hv.closing with ⟨ht, hu⟩ | ⟨i, r, j, q, ht, hu, -, hrest, halike⟩
    · exact Or.inl ⟨comment?_eq_none_iff_closing?.mpr ht, comment?_eq_none_iff_closing?.mpr hu⟩
    · refine Or.inr ⟨_, r, _, q, ?_, ?_, hrest, (halike.cons '*').cons '/'⟩
      · rw [comment?, ht, Option.map_some]
      · rw [comment?, hu, Option.map_some]
  · have hopen' : ¬ ∃ v, u = '/' :: '*' :: v := by
      rintro ⟨v, rfl⟩
      obtain ⟨t, rfl, hstar⟩ := h.cons_right (by decide)
      obtain ⟨w, rfl, -⟩ := hstar.cons_right (by decide)
      exact hopen ⟨w, rfl⟩
    exact Or.inl ⟨comment?_eq_none_of_not_open hopen, comment?_eq_none_of_not_open hopen'⟩

/-- Blanking the comments of related texts gives related texts. -/
lemma Trimmed.blankComments (h : Trimmed t u) :
    Trimmed (blankComments t) (blankComments u) := by
  -- The induction is on the pieces of the first text; padding may have to go from it.
  induction t using pieces.induct generalizing u with
  | case1 t i r hcomment _ ih =>
    rcases h.comment with ⟨ht, -⟩ | ⟨i', r', j, q, ht, hu, hrest, halike⟩
    · rw [hcomment] at ht
      cases ht
    · rw [hcomment] at ht
      cases ht
      rw [blankComments_of_comment hcomment, blankComments_of_comment hu]
      exact halike _ _ (ih hrest)
  | case2 hcode =>
    cases h
    rw [blankComments_nil]
    exact .nil
  | case3 c cs hcode ih =>
    have hu : comment? u = none := by
      rcases h.comment with ⟨-, hu⟩ | ⟨i, r, j, q, ht, -⟩
      · exact hu
      · rw [hcode] at ht
        cases ht
    rw [blankComments_of_code hcode]
    cases h with
    | cons _ h =>
      rw [blankComments_of_code hu]
      exact (ih h).cons c
    | drop hc hend h =>
      refine (ih h).drop hc ?_
      cases u with
      | nil => rwa [blankComments_nil]
      | cons d u =>
        rw [blankComments_of_code hu]
        exact hend

/-! ### Lines -/

/-- The second line is the first one without padding at its end. -/
def TrimmedLine (a b : Text) : Prop :=
  ∃ p, (∀ c ∈ p, IsPadding c) ∧ a = b ++ p

/-- Related texts have related lines. -/
lemma Trimmed.forall₂_lines (h : Trimmed t u) :
    List.Forall₂ TrimmedLine (t.splitOn '\n') (u.splitOn '\n') := by
  induction h with
  | nil => exact .cons ⟨[], by simp, rfl⟩ .nil
  | @cons t u c h ih =>
    by_cases hc : c = '\n'
    · subst hc
      rw [Text.splitOn_cons_self, Text.splitOn_cons_self]
      exact .cons ⟨[], by simp, rfl⟩ ih
    · rw [Text.splitOn_cons_of_ne hc, Text.splitOn_cons_of_ne hc]
      generalize t.splitOn '\n' = ts at ih
      generalize u.splitOn '\n' = us at ih
      cases ih with
      | nil => exact .nil
      | cons hfirst hrest =>
        obtain ⟨p, hp, rfl⟩ := hfirst
        exact .cons ⟨p, hp, rfl⟩ hrest
  | @drop t u c hc hend h ih =>
    rw [Text.splitOn_cons_of_ne hc.ne_lineFeed]
    -- The first line of the trimmed text is empty, so all of the other one is padding.
    obtain ⟨us, hus⟩ : ∃ us, u.splitOn '\n' = [] :: us := by
      cases u with
      | nil => exact ⟨[], rfl⟩
      | cons d u =>
        rw [hend d rfl]
        exact ⟨_, Text.splitOn_cons_self _ _⟩
    rw [hus] at ih ⊢
    obtain ⟨a, as, ⟨p, hp, ha⟩, hrest, has⟩ := List.forall₂_cons_right_iff.mp ih
    rw [has, ha]
    exact .cons ⟨c :: p, List.forall_mem_cons.mpr ⟨hc, hp⟩, rfl⟩ hrest

/-- The blanked lines of a document are those of its content, without padding at their ends. -/
theorem forall₂_blanked_lines (d : Document) :
    List.Forall₂ TrimmedLine ((Style.blankComments d.text).splitOn '\n')
      ((Style.blankComments (['\n'].intercalate d.lines)).splitOn '\n') := by
  have hlines := trimmed_intercalate (d.text.splitOn '\n')
  rw [List.intercalate_splitOn] at hlines
  exact hlines.blankComments.forall₂_lines

end Document

end DesignTokens
