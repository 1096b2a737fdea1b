import DesignTokens.Proofs.Text.Split
import DesignTokens.Style.Comment

/-!
# What blanking, removing and joining do to comments

A comment at the front of a text stays one when text is added behind it, and an opening that is
not closed stays plain only as long as nothing behind closes it.  Three results follow.  A blanked
text has no comment anywhere (`comment?_eq_none_of_suffix`), so blanking again what stands in it, a
line for one, changes nothing.  The pieces of two texts put together are the pieces of the one and
of the other, when the first leaves no comment open (`pieces_append`).  And when it does leave one
open at a line end, the second text may close it: then blanks stand where the first text alone is
plain (`blankComments_append_line`).

Removing goes along the text in the same steps as blanking does, and a text that has a comment loses
slashes by it (`count_removeComments_lt`).
-/

namespace DesignTokens

namespace Style

variable {s t u span rest : Text} {c : Char}

/-! ### One step -/

/-- The empty text has no pieces. -/
@[simp] lemma pieces_nil : pieces [] = [] := by
  rw [pieces]
  rfl

/-- A comment at the front is one piece. -/
lemma pieces_of_comment (h : comment? t = some (span, rest)) :
    pieces t = .comment span :: pieces rest := by
  rw [pieces]
  split
  · next span' rest' h' =>
    rw [h] at h'
    cases h'
    rfl
  · next h' =>
    rw [h] at h'
    cases h'

/-- A character at which no comment begins is a piece of its own. -/
lemma pieces_of_code (h : comment? (c :: t) = none) : pieces (c :: t) = .code c :: pieces t := by
  rw [pieces]
  split
  · next h' =>
    rw [h] at h'
    cases h'
  · rfl

/-- Nothing is blanked in the empty text. -/
@[simp] lemma blankComments_nil : blankComments [] = [] := by
  simp [blankComments]

/-- A comment at the front is blanked, and then what follows it. -/
lemma blankComments_of_comment (h : comment? t = some (span, rest)) :
    blankComments t = (Piece.comment span).blanked ++ blankComments rest := by
  rw [blankComments, pieces_of_comment h, List.flatMap_cons, blankComments]

/-- A character at which no comment begins is left. -/
lemma blankComments_of_code (h : comment? (c :: t) = none) :
    blankComments (c :: t) = c :: blankComments t := by
  rw [blankComments, pieces_of_code h, List.flatMap_cons, blankComments]
  rfl

/-- Only a slash and a star begin a comment. -/
lemma comment?_eq_none_of_not_open (h : ¬ ∃ u, t = '/' :: '*' :: u) : comment? t = none := by
  unfold comment?
  split
  · next u => exact absurd ⟨u, rfl⟩ h
  · rfl

/-- No comment begins with anything but a slash. -/
lemma comment?_of_ne_slash (hc : c ≠ '/') (t : Text) : comment? (c :: t) = none := by
  apply comment?_eq_none_of_not_open
  rintro ⟨u, h⟩
  cases h
  exact hc rfl

/-- No comment goes on with anything but a star. -/
lemma comment?_of_ne_star {d : Char} (hd : d ≠ '*') (t : Text) : comment? (c :: d :: t) = none := by
  apply comment?_eq_none_of_not_open
  rintro ⟨u, h⟩
  cases h
  exact hd rfl

/-- No comment begins where no star stands behind a slash. -/
lemma comment?_cons_eq_none (h : c = '/' → t.head? ≠ some '*') : comment? (c :: t) = none := by
  apply comment?_eq_none_of_not_open
  rintro ⟨u, hu⟩
  cases hu
  exact h rfl rfl

/-- An opening begins no comment exactly if nothing behind closes it. -/
lemma comment?_eq_none_iff_closing? :
    comment? ('/' :: '*' :: t) = none ↔ closing? t = none := by
  rw [comment?, Option.map_eq_none_iff]

/-- A comment is closed by a star and a slash, or behind the character. -/
lemma closing?_cons (c : Char) (t : Text) :
    closing? (c :: t) = if c = '*' ∧ t.head? = some '/' then some (['*', '/'], t.tail)
      else (closing? t).map fun (inside, rest) => (c :: inside, rest) := by
  cases t with
  | nil => simp [closing?]
  | cons b t =>
    rw [closing?]
    by_cases h : c = '*' ∧ b = '/'
    · simp [h]
    · rw [if_neg h, if_neg (by simpa using h)]

/-- What closes a comment goes on closing it when text is added behind. -/
lemma closing?_append_right {inside : Text} (h : closing? s = some (inside, rest)) (u : Text) :
    closing? (s ++ u) = some (inside, rest ++ u) := by
  induction s using closing?.induct generalizing inside rest with
  | case1 => cases h
  | case2 => cases h
  | case3 a b cs hab =>
    rw [closing?, if_pos hab] at h
    cases h
    rw [List.cons_append, List.cons_append, closing?, if_pos hab]
  | case4 a b cs hab ih =>
    rw [closing?, if_neg hab, Option.map_eq_some_iff] at h
    obtain ⟨⟨inside', rest'⟩, h', heq⟩ := h
    cases heq
    have hstep := ih h'
    rw [List.cons_append] at hstep
    rw [List.cons_append, List.cons_append, closing?, if_neg hab, hstep, Option.map_some]

/-- A comment at the front stays one, whatever is added behind. -/
lemma comment?_append_right (h : comment? s = some (span, rest)) (u : Text) :
    comment? (s ++ u) = some (span, rest ++ u) := by
  unfold comment? at h
  split at h
  · next t =>
    rw [Option.map_eq_some_iff] at h
    obtain ⟨⟨inside, rest'⟩, h', heq⟩ := h
    cases heq
    rw [List.cons_append, List.cons_append, comment?, closing?_append_right h', Option.map_some]
  · cases h

/-- If nothing closes a comment in a text, nothing does so behind its first character. -/
lemma closing?_tail (h : closing? (c :: t) = none) : closing? t = none := by
  rw [closing?_cons] at h
  split at h
  · cases h
  · exact Option.map_eq_none_iff.mp h

/-- A comment is closed at the first star in front of a slash. -/
lemma closing?_inside (h : ¬ ['*', '/'] <:+: s) (t : Text) :
    closing? (s ++ '*' :: '/' :: t) = some (s ++ ['*', '/'], t) := by
  induction s with
  | nil => rfl
  | cons c s ih =>
    rw [List.infix_cons_iff, not_or] at h
    have hopen : ¬ (c = '*' ∧ (s ++ '*' :: '/' :: t).head? = some '/') := by
      rintro ⟨rfl, hslash⟩
      cases s with
      | nil => cases hslash
      | cons d s =>
        cases hslash
        exact h.1 (List.prefix_append ['*', '/'] s)
    rw [List.cons_append, closing?_cons, if_neg hopen, ih h.2, Option.map_some, List.cons_append]

/-- An opening mark begins the comment that ends there. -/
lemma comment?_inside (h : ¬ ['*', '/'] <:+: s) (t : Text) :
    comment? ('/' :: '*' :: (s ++ '*' :: '/' :: t))
      = some ('/' :: '*' :: (s ++ ['*', '/']), t) := by
  rw [comment?, closing?_inside h, Option.map_some]

/-- A comment is closed where a star stands in front of a slash, and nowhere else. -/
lemma closing?_eq_none_iff : closing? t = none ↔ ¬ ['*', '/'] <:+: t := by
  induction t with
  | nil => simp [closing?]
  | cons c t ih =>
    have hfirst : ['*', '/'] <+: c :: t ↔ c = '*' ∧ t.head? = some '/' := by
      cases t <;> simp [eq_comm]
    rw [closing?_cons, List.infix_cons_iff, hfirst, not_or, ← ih]
    by_cases hopen : c = '*' ∧ t.head? = some '/'
    · simp [hopen]
    · simp [hopen]

/-- An opening mark begins a comment when it is closed somewhere behind. -/
lemma comment?_ne_none_iff : comment? ('/' :: '*' :: t) ≠ none ↔ ['*', '/'] <:+: t := by
  rw [ne_eq, comment?_eq_none_iff_closing?, closing?_eq_none_iff, not_not]

/-! ### Blanked texts -/

/-- Blanking keeps every position, and the line feeds in theirs. -/
lemma forall₂_blankComments (t : Text) :
    List.Forall₂ (fun b c => b = '\n' ↔ c = '\n') t (blankComments t) := by
  induction t using pieces.induct with
  | case1 t span rest hcomment _ ih =>
    rw [blankComments_of_comment hcomment, comment?_append hcomment]
    refine List.rel_append ?_ ih
    rw [Piece.blanked, List.forall₂_map_right_iff]
    refine List.forall₂_same.mpr fun c _ => ?_
    by_cases hc : c = '\n'
    · simp [hc]
    · simp [hc]
  | case2 hcode =>
    rw [blankComments_nil]
    exact .nil
  | case3 c cs hcode ih =>
    rw [blankComments_of_code hcode]
    exact .cons Iff.rfl ih

/-- The lines of a blanked text are as long as those of the text. -/
theorem map_length_lines_blankComments (t : Text) :
    ((blankComments t).splitOn '\n').map List.length = (t.splitOn '\n').map List.length :=
  (Text.map_length_splitOn_congr (forall₂_blankComments t)).symm

/-- Where nothing closes a comment there is none to blank. -/
lemma blankComments_of_closing? (h : closing? t = none) : blankComments t = t := by
  induction t with
  | nil => exact blankComments_nil
  | cons c t ih =>
    have hcode : comment? (c :: t) = none := by
      unfold comment?
      split
      · next heq =>
        cases heq
        rw [closing?_tail (closing?_tail h)]
        rfl
      · rfl
    rw [blankComments_of_code hcode, ih (closing?_tail h)]

/-- A blanked comment has no slash left. -/
lemma slash_not_mem_blanked (span : Text) : '/' ∉ (Piece.comment span).blanked := by
  intro h
  obtain ⟨c, -, hc⟩ := List.mem_map.mp h
  split at hc
  · revert hc
    decide
  · revert hc
    decide

/-- A character that begins no comment begins none before the blanked rest either. -/
lemma comment?_cons_blankComments (h : comment? (c :: t) = none) :
    comment? (c :: blankComments t) = none := by
  by_cases hc : c = '/'
  · subst hc
    cases t with
    | nil => rw [blankComments_nil, h]
    | cons d t =>
      cases hd : comment? (d :: t) with
      | some p =>
        -- The comment that follows is blanked, and its slash with it.
        obtain ⟨span, rest⟩ := p
        rw [blankComments_of_comment hd]
        unfold comment? at hd
        split at hd
        · rw [Option.map_eq_some_iff] at hd
          obtain ⟨⟨inside, rest'⟩, -, heq⟩ := hd
          cases heq
          exact comment?_of_ne_star (by decide) _
        · cases hd
      | none =>
        rw [blankComments_of_code hd]
        by_cases hstar : d = '*'
        · subst hstar
          rw [comment?_eq_none_iff_closing?] at h
          rw [blankComments_of_closing? h, comment?_eq_none_iff_closing?, h]
        · exact comment?_of_ne_star hstar _
  · exact comment?_of_ne_slash hc _

/-- No comment begins anywhere in a blanked text. -/
theorem comment?_eq_none_of_suffix (h : s <:+ blankComments t) : comment? s = none := by
  -- The induction is on the pieces of the text.
  induction t using pieces.induct with
  | case1 t span rest hcomment _ ih =>
    obtain ⟨v, hv⟩ := h
    rw [blankComments_of_comment hcomment] at hv
    rcases List.append_eq_append_iff.mp hv with ⟨w, hw, rfl⟩ | ⟨w, -, hw⟩
    · cases w with
      | nil => exact ih (List.suffix_refl _)
      | cons c w =>
        apply comment?_of_ne_slash
        rintro rfl
        exact slash_not_mem_blanked span (hw ▸ by simp)
    · exact ih ⟨w, hw.symm⟩
  | case2 hcode =>
    rw [blankComments_nil, List.suffix_nil] at h
    rw [h]
    rfl
  | case3 c cs hcode ih =>
    rw [blankComments_of_code hcode, List.suffix_cons_iff] at h
    rcases h with rfl | h
    · exact comment?_cons_blankComments hcode
    · exact ih h

/-- In front of a text, every character counts where no comment begins. -/
lemma pieces_code_append (h : ∀ v, v ≠ [] → v <:+ s → comment? (v ++ t) = none) :
    pieces (s ++ t) = s.map .code ++ pieces t := by
  induction s with
  | nil => rfl
  | cons c s ih =>
    have hcode : comment? (c :: (s ++ t)) = none :=
      h (c :: s) (List.cons_ne_nil c s) (List.suffix_refl _)
    have hrest := ih fun v hne hv => h v hne (hv.trans (List.suffix_cons c s))
    rw [List.cons_append, pieces_of_code hcode, hrest, List.map_cons, List.cons_append]

/-- Where no comment begins, every character counts. -/
lemma pieces_eq_map_code (h : ∀ s, s <:+ t → comment? s = none) : pieces t = t.map .code := by
  have hjoint := pieces_code_append (s := t) (t := []) fun v _ hv => by
    rw [List.append_nil, h v hv]
  rwa [List.append_nil, pieces_nil, List.append_nil] at hjoint

/-- In front of a text, blanking leaves the characters where no comment begins. -/
lemma blankComments_code_append (h : ∀ v, v ≠ [] → v <:+ s → comment? (v ++ t) = none) :
    blankComments (s ++ t) = s ++ blankComments t := by
  rw [blankComments, pieces_code_append h, List.flatMap_append, List.flatMap_map, blankComments]
  exact congrArg (· ++ _) (List.flatMap_singleton' s)

/-- Blanking changes nothing where no comment begins. -/
lemma blankComments_eq_self (h : ∀ s, s <:+ t → comment? s = none) : blankComments t = t := by
  rw [blankComments, pieces_eq_map_code h, List.flatMap_map]
  exact List.flatMap_singleton' t

/-- Removing comments changes nothing where none begins. -/
lemma removeComments_eq_self (h : ∀ s, s <:+ t → comment? s = none) : removeComments t = t := by
  rw [removeComments, pieces_eq_map_code h, List.flatMap_map]
  exact List.flatMap_singleton' t

/-- No comment begins in a text in which no slash stands before a star. -/
lemma comment?_eq_none_of_no_opening (h : ¬ ['/', '*'] <:+: t) :
    ∀ s, s <:+ t → comment? s = none := by
  intro s hs
  apply comment?_eq_none_of_not_open
  rintro ⟨u, rfl⟩
  exact h ((List.prefix_append ['/', '*'] u).isInfix.trans hs.isInfix)

/-- Blanking again what stands in a blanked text changes nothing. -/
theorem blankComments_of_infix (h : s <:+: blankComments t) : blankComments s = s := by
  obtain ⟨before, behind, heq⟩ := h
  apply blankComments_eq_self
  rintro u ⟨front, rfl⟩
  rw [← Option.not_isSome_iff_eq_none, Option.isSome_iff_exists]
  rintro ⟨⟨span, rest⟩, hspan⟩
  have hsuffix : u ++ behind <:+ blankComments t := by
    refine ⟨before ++ front, ?_⟩
    rw [← heq, List.append_assoc, List.append_assoc, List.append_assoc]
  have hnone := comment?_eq_none_of_suffix hsuffix
  rw [comment?_append_right hspan] at hnone
  cases hnone

/-- Blanking a line of a blanked text changes nothing. -/
theorem blankComments_line {line : Text} (h : line ∈ (blankComments t).splitOn '\n') :
    blankComments line = line :=
  blankComments_of_infix (Text.infix_of_mem_splitOn h)

/-! ### Removed comments -/

/-- Nothing is removed from the empty text. -/
@[simp] lemma removeComments_nil : removeComments [] = [] := by
  simp [removeComments]

/-- A comment at the front is removed. -/
lemma removeComments_of_comment (h : comment? t = some (span, rest)) :
    removeComments t = removeComments rest := by
  rw [removeComments, pieces_of_comment h, List.flatMap_cons, removeComments]
  rfl

/-- A character at which no comment begins is kept. -/
lemma removeComments_of_code (h : comment? (c :: t) = none) :
    removeComments (c :: t) = c :: removeComments t := by
  rw [removeComments, pieces_of_code h, List.flatMap_cons, removeComments]
  rfl

/-- A comment in front of a text is removed. -/
lemma removeComments_comment_append (h : ¬ ['*', '/'] <:+: s) (t : Text) :
    removeComments ('/' :: '*' :: (s ++ '*' :: '/' :: t)) = removeComments t :=
  removeComments_of_comment (comment?_inside h t)

/-- In front of a text, characters stay where no comment begins. -/
lemma removeComments_code_append (h : ∀ v, v ≠ [] → v <:+ s → comment? (v ++ t) = none) :
    removeComments (s ++ t) = s ++ removeComments t := by
  rw [removeComments, pieces_code_append h, List.flatMap_append, List.flatMap_map, removeComments]
  exact congrArg (· ++ _) (List.flatMap_singleton' s)

/-- Removing comments adds no character. -/
lemma count_removeComments_le (a : Char) (t : Text) :
    (removeComments t).count a ≤ t.count a := by
  induction t using pieces.induct with
  | case1 t span rest hcomment _ ih =>
    rw [removeComments_of_comment hcomment, comment?_append hcomment, List.count_append]
    omega
  | case2 _ => rw [removeComments_nil]
  | case3 c cs hcode ih =>
    rw [removeComments_of_code hcode, List.count_cons, List.count_cons]
    omega

/-- A text that has a comment loses slashes with it. -/
lemma count_removeComments_lt (hs : s <:+ t) (hcomment : comment? s ≠ none) :
    (removeComments t).count '/' < t.count '/' := by
  induction t using pieces.induct with
  | case1 t span rest hspan _ _ =>
    have hslash : '/' ∈ span := by
      unfold comment? at hspan
      split at hspan
      · obtain ⟨p, -, hp⟩ := Option.map_eq_some_iff.mp hspan
        cases hp
        exact List.mem_cons_self
      · cases hspan
    have hpos := List.count_pos_iff.mpr hslash
    have hrest := count_removeComments_le '/' rest
    rw [removeComments_of_comment hspan, comment?_append hspan, List.count_append]
    omega
  | case2 hnone =>
    rw [List.suffix_nil.mp hs] at hcomment
    exact absurd hnone hcomment
  | case3 c cs hcode ih =>
    rcases List.suffix_cons_iff.mp hs with rfl | hs
    · exact absurd hcode hcomment
    · rw [removeComments_of_code hcode, List.count_cons, List.count_cons]
      have hrest := ih hs
      omega

/-! ### Joint texts -/

/-- A text leaves no comment open when no opening is left outside its comments. -/
def CommentClosed (t : Text) : Prop :=
  ¬ [Piece.code '/', Piece.code '*'] <:+: pieces t

instance : Decidable (CommentClosed t) :=
  inferInstanceAs (Decidable (¬ [Piece.code '/', Piece.code '*'] <:+: _))

/-- Behind a text that leaves no comment open, and that does not end with the first half of an
opening, the pieces of another text are those that it has alone. -/
theorem pieces_append (hclosed : CommentClosed t)
    (hlast : (pieces t).getLast? ≠ some (.code '/')) (u : Text) :
    pieces (t ++ u) = pieces t ++ pieces u := by
  induction t using pieces.induct with
  | case1 t span rest hcomment _ ih =>
    rw [CommentClosed, pieces_of_comment hcomment] at hclosed
    rw [pieces_of_comment hcomment] at hlast
    have hrest : (pieces rest).getLast? ≠ some (.code '/') := by
      intro h
      rw [List.getLast?_cons, h] at hlast
      exact hlast rfl
    have hjoint := ih (fun h => hclosed (List.infix_cons h)) hrest
    rw [pieces_of_comment (comment?_append_right hcomment u), pieces_of_comment hcomment, hjoint,
      List.cons_append]
  | case2 _ => rw [List.nil_append, pieces_nil, List.nil_append]
  | case3 c cs hcode ih =>
    rw [CommentClosed, pieces_of_code hcode] at hclosed
    rw [pieces_of_code hcode] at hlast
    have hrest : (pieces cs).getLast? ≠ some (.code '/') := by
      intro h
      rw [List.getLast?_cons, h] at hlast
      exact hlast rfl
    have hjoint := ih (fun h => hclosed (List.infix_cons h)) hrest
    -- A slash at the end is excluded; one before a star is an opening that the text closes.
    have hjointCode : comment? (c :: cs ++ u) = none := by
      by_cases hc : c = '/'
      · subst hc
        cases cs with
        | nil =>
          rw [pieces_nil] at hlast
          exact absurd rfl hlast
        | cons d ds =>
          apply comment?_of_ne_star
          rintro rfl
          rw [pieces_of_code (comment?_of_ne_slash (by decide) ds)] at hclosed
          exact hclosed (List.prefix_append [Piece.code '/', Piece.code '*'] _).isInfix
      · exact comment?_of_ne_slash hc _
    rw [List.cons_append] at hjointCode ⊢
    rw [pieces_of_code hjointCode, pieces_of_code hcode, hjoint, List.cons_append]

/-! ### Texts cut at a line end -/

/-- What is not closed at a line end is closed behind it, or not at all. -/
lemma closing?_append_line (h : closing? s = none) (u : Text) :
    closing? (s ++ '\n' :: u)
      = (closing? u).map fun (inside, rest) => (s ++ '\n' :: inside, rest) := by
  induction s with
  | nil =>
    rw [List.nil_append, closing?_cons, if_neg fun h => absurd h.1 (by decide)]
    rfl
  | cons c s ih =>
    have hopen : ¬ (c = '*' ∧ (s ++ '\n' :: u).head? = some '/') := by
      rintro ⟨rfl, hslash⟩
      cases s with
      | nil => cases hslash
      | cons d s =>
        cases hslash
        cases h
    rw [List.cons_append, closing?_cons, if_neg hopen, ih (closing?_tail h), Option.map_map]
    rfl

/-- A comment that only what stands behind a line end closes has opened the line, and goes on behind
its end. -/
lemma comment?_append_line (hopen : comment? t = none)
    (hjoint : comment? (t ++ '\n' :: u) = some (span, rest)) :
    ∃ s i, t = '/' :: '*' :: s ∧ closing? s = none ∧ span = t ++ '\n' :: i := by
  match t with
  | [] =>
    rw [List.nil_append, comment?_of_ne_slash (by decide)] at hjoint
    cases hjoint
  | [c] =>
    rw [List.singleton_append, comment?_of_ne_star (by decide)] at hjoint
    cases hjoint
  | c :: d :: s =>
    by_cases hc : c = '/'
    · by_cases hd : d = '*'
      · subst hc hd
        have hs := comment?_eq_none_iff_closing?.mp hopen
        rw [List.cons_append, List.cons_append, comment?, closing?_append_line hs, Option.map_map,
          Option.map_eq_some_iff] at hjoint
        obtain ⟨⟨i, r⟩, -, heq⟩ := hjoint
        exact ⟨s, i, rfl, hs, (congrArg Prod.fst heq).symm⟩
      · rw [List.cons_append, List.cons_append, comment?_of_ne_star hd] at hjoint
        cases hjoint
    · rw [List.cons_append, comment?_of_ne_slash hc] at hjoint
      cases hjoint

/-- Up to a line end, a text is blanked as it is alone, but for what stands behind some place: alone
that is plain, and in the joint text it is blank. -/
theorem blankComments_append_line (t u : Text) :
    ∃ c x z, blankComments t = c ++ x ∧
      blankComments (t ++ '\n' :: u) = c ++ (Piece.comment x).blanked ++ '\n' :: z := by
  -- The induction is on the pieces of the first text.
  induction t using pieces.induct with
  | case1 t span rest hcomment _ ih =>
    obtain ⟨c, x, z, hleft, hjoint⟩ := ih
    refine ⟨(Piece.comment span).blanked ++ c, x, z, ?_, ?_⟩
    · rw [blankComments_of_comment hcomment, hleft, List.append_assoc]
    · rw [blankComments_of_comment (comment?_append_right hcomment _), hjoint]
      simp only [List.append_assoc]
  | case2 _ =>
    refine ⟨[], [], blankComments u, blankComments_nil, ?_⟩
    rw [List.nil_append, blankComments_of_code (comment?_of_ne_slash (by decide) u)]
    rfl
  | case3 b t hcode ih =>
    cases hjoint : comment? (b :: t ++ '\n' :: u) with
    | none =>
      obtain ⟨c, x, z, hleft, hbehind⟩ := ih
      refine ⟨b :: c, x, z, ?_, ?_⟩
      · rw [blankComments_of_code hcode, hleft, List.cons_append]
      · rw [List.cons_append] at hjoint ⊢
        rw [blankComments_of_code hjoint, hbehind]
        rfl
    | some p =>
      -- The place is the opening of the comment, and all of the text behind it is in the comment.
      obtain ⟨s, i, heq, hs, hspan⟩ := comment?_append_line hcode hjoint
      obtain ⟨rfl, rfl⟩ := List.cons.inj heq
      refine ⟨[], '/' :: '*' :: s, (Piece.comment i).blanked ++ blankComments p.2, ?_, ?_⟩
      · rw [blankComments_of_code hcode, blankComments_of_code (comment?_of_ne_slash (by decide) s),
          blankComments_of_closing? hs, List.nil_append]
      · rw [blankComments_of_comment hjoint, hspan]
        simp [Piece.blanked]

end Style

end DesignTokens
