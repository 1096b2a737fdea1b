import DesignTokens.Proofs.Style.Comment

/-!
# Texts written with comments

A text is written as plain stretches and comments in turn.  No comment opens in a stretch, a comment
reaches to the first mark that closes it, and what opens behind the last comment is never closed.
Every text is written so (`exists_commented`), and blanking leaves its stretches and makes spaces of
its comments (`Commented.blankComments_text`), whichever way is found.  This says which places
blanking changes without going along the text.

A text has a comment when a mark that opens one has a mark that closes it behind; a blanked text has
none (`not_hasComment_blankComments`).
-/

namespace DesignTokens

namespace Style

variable {g s t : Text}

/-! ### Texts without comments -/

/-- Behind an opening mark of the text is a closing one, with no character in common. -/
def HasComment (t : Text) : Prop :=
  ∃ x y z, t = x ++ '/' :: '*' :: (y ++ '*' :: '/' :: z)

/-- A text has a comment when one begins somewhere in it. -/
lemma hasComment_iff : HasComment t ↔ ∃ s, s <:+ t ∧ comment? s ≠ none := by
  constructor
  · rintro ⟨x, y, z, rfl⟩
    refine ⟨'/' :: '*' :: (y ++ '*' :: '/' :: z), List.suffix_append x _, ?_⟩
    rw [comment?_ne_none_iff]
    exact ⟨y, z, by simp⟩
  · rintro ⟨s, ⟨x, rfl⟩, hs⟩
    obtain ⟨u, rfl⟩ : ∃ u, s = '/' :: '*' :: u := by
      by_contra hopen
      exact hs (comment?_eq_none_of_not_open hopen)
    obtain ⟨y, z, rfl⟩ := comment?_ne_none_iff.mp hs
    exact ⟨x, y, z, by simp⟩

/-- In a text without comments none begins anywhere. -/
lemma comment?_eq_none_of_not_hasComment (h : ¬ HasComment t) :
    ∀ s, s <:+ t → comment? s = none := by
  intro s hs
  by_contra hcomment
  exact h (hasComment_iff.mpr ⟨s, hs, hcomment⟩)

/-- A blanked text has no comment. -/
theorem not_hasComment_blankComments (t : Text) : ¬ HasComment (blankComments t) := by
  intro h
  obtain ⟨s, hs, hcomment⟩ := hasComment_iff.mp h
  exact hcomment (comment?_eq_none_of_suffix hs)

/-! ### Places -/

/-- Blanking keeps the length. -/
@[simp] lemma length_blankComments (t : Text) : (blankComments t).length = t.length :=
  (forall₂_blankComments t).length_eq.symm

/-- The line feeds of a blanked text are those of the text. -/
lemma getElem?_blankComments_eq_lineFeed (t : Text) (i : Nat) :
    (blankComments t)[i]? = some '\n' ↔ t[i]? = some '\n' := by
  have hplaces := forall₂_blankComments t
  generalize blankComments t = b at hplaces
  induction hplaces generalizing i with
  | nil => rfl
  | cons hfirst _ ih =>
    cases i with
    | zero => simpa using hfirst.symm
    | succ i => exact ih i

/-! ### Stretches and comments -/

/-- A text written as plain stretches and comments in turn. -/
structure Commented where
  /-- The comments: the plain stretch in front of each, and what is between its marks. -/
  comments : List (Text × Text)
  /-- What stands behind the last comment. -/
  tail : Text
  /-- No comment opens in a plain stretch. -/
  plain : ∀ p ∈ comments, ¬ ['/', '*'] <:+: p.1
  /-- A comment reaches to the first mark that closes it. -/
  closed : ∀ p ∈ comments, ¬ ['*', '/'] <:+: p.2
  /-- What opens behind the last comment is never closed. -/
  tail_plain : ¬ HasComment tail

namespace Commented

/-- A comment with its marks. -/
def span (s : Text) : Text :=
  '/' :: '*' :: (s ++ ['*', '/'])

/-- The text as it is written. -/
def text (c : Commented) : Text :=
  c.comments.flatMap (fun p => p.1 ++ span p.2) ++ c.tail

/-- The text with spaces in the place of its comments, but for their line feeds. -/
def blanked (c : Commented) : Text :=
  c.comments.flatMap (fun p => p.1 ++ (span p.2).map fun a => if a = '\n' then '\n' else ' ')
    ++ c.tail

/-- A text begins with its first stretch and its first comment. -/
lemma exists_text_eq {c : Commented} {p : Text × Text} {ps : List (Text × Text)}
    (h : c.comments = p :: ps) : ∃ u, c.text = p.1 ++ (span p.2 ++ u) :=
  ⟨_, by rw [text, h, List.flatMap_cons, List.append_assoc, List.append_assoc]⟩

end Commented

/-- A comment that reaches to the first closing mark is one whatever stands behind it. -/
lemma comment?_span (hs : ¬ ['*', '/'] <:+: s) (t : Text) :
    comment? (Commented.span s ++ t) = some (Commented.span s, t) := by
  have hcomment := comment?_inside hs t
  have hsplit : Commented.span s ++ t = '/' :: '*' :: (s ++ '*' :: '/' :: t) := by
    simp [Commented.span]
  rwa [← hsplit] at hcomment

/-- A mark in front of a comment that opens one is closed with the comment, if not before. -/
lemma comment?_opening_ne_none (v s t : Text) :
    comment? ('/' :: '*' :: (v ++ (Commented.span s ++ t))) ≠ none := by
  rw [comment?_ne_none_iff]
  exact ⟨v ++ '/' :: '*' :: s, t, by simp [Commented.span]⟩

/-- In a plain stretch no comment begins, also not with the mark that stands behind it. -/
lemma comment?_plain_append (hg : ¬ ['/', '*'] <:+: g) (s t : Text) :
    ∀ v, v ≠ [] → v <:+ g → comment? (v ++ (Commented.span s ++ t)) = none := by
  intro v hne hv
  obtain ⟨c, v, rfl⟩ := List.exists_cons_of_ne_nil hne
  refine comment?_cons_eq_none ?_
  rintro rfl hstar
  cases v with
  | nil => cases hstar
  | cons d v =>
    cases hstar
    exact hg ((List.prefix_append ['/', '*'] v).isInfix.trans hv.isInfix)

/-- Where a text is written as stretches and comments, blanking leaves the stretches and makes
spaces of the comments. -/
theorem Commented.blankComments_text (c : Commented) : blankComments c.text = c.blanked := by
  obtain ⟨comments, tail, plain, closed, tail_plain⟩ := c
  dsimp only [text, blanked]
  induction comments with
  | nil => exact blankComments_eq_self (comment?_eq_none_of_not_hasComment tail_plain)
  | cons p comments ih =>
    rw [List.forall_mem_cons] at plain closed
    have hplain := comment?_plain_append plain.1 p.2
    rw [List.flatMap_cons, List.flatMap_cons, List.append_assoc, List.append_assoc,
      blankComments_code_append (hplain _), blankComments_of_comment (comment?_span closed.1 _),
      ih plain.2 closed.2, List.append_assoc, List.append_assoc]
    rfl

-- The star that opens a comment does not close it.
example : blankComments "/*/ a */ b /*".toList = "         b /*".toList := by
  decide +kernel

/-- What closes a comment is the first mark that can. -/
lemma exists_of_closing? {inside rest : Text} (h : closing? t = some (inside, rest)) :
    ∃ s, inside = s ++ ['*', '/'] ∧ ¬ ['*', '/'] <:+: s := by
  induction t generalizing inside with
  | nil => cases h
  | cons c t ih =>
    rw [closing?_cons] at h
    split at h
    · cases h
      exact ⟨[], rfl, by simp⟩
    · next hopen =>
      obtain ⟨⟨inside', rest'⟩, h', heq⟩ := Option.map_eq_some_iff.mp h
      cases heq
      obtain ⟨s, rfl, hs⟩ := ih h'
      refine ⟨c :: s, rfl, ?_⟩
      rw [List.infix_cons_iff, not_or]
      refine ⟨?_, hs⟩
      rintro ⟨v, hv⟩
      -- The mark would stand in front of all of the comment.
      cases hv
      exact hopen ⟨rfl, by rw [closing?_append h']; rfl⟩

/-- A comment is what stands between its marks, with no closing mark in it. -/
lemma exists_of_comment? {rest : Text} {span : Text} (h : comment? t = some (span, rest)) :
    ∃ s, span = Commented.span s ∧ ¬ ['*', '/'] <:+: s := by
  unfold comment? at h
  split at h
  · obtain ⟨⟨inside, rest'⟩, hinside, heq⟩ := Option.map_eq_some_iff.mp h
    cases heq
    obtain ⟨s, rfl, hs⟩ := exists_of_closing? hinside
    exact ⟨s, rfl, hs⟩
  · cases h

/-- A comment may be written in front of a text. -/
lemma Commented.exists_span_append (d : Commented) (hs : ¬ ['*', '/'] <:+: s) :
    ∃ e : Commented, e.text = span s ++ d.text := by
  refine ⟨⟨([], s) :: d.comments, d.tail, ?_, ?_, d.tail_plain⟩, by simp [text]⟩
  · exact List.forall_mem_cons.mpr ⟨by simp, d.plain⟩
  · exact List.forall_mem_cons.mpr ⟨hs, d.closed⟩

/-- A character at which no comment begins may be written in front of a text. -/
lemma Commented.exists_cons {c : Char} (d : Commented) (hcode : comment? (c :: d.text) = none) :
    ∃ e : Commented, e.text = c :: d.text := by
  obtain ⟨comments, tail, plain, closed, tail_plain⟩ := d
  cases comments with
  | nil =>
    -- The character stands in what is behind the last comment.
    refine ⟨⟨[], c :: tail, plain, closed, ?_⟩, rfl⟩
    intro h
    obtain ⟨s, hs, hcomment⟩ := hasComment_iff.mp h
    rcases List.suffix_cons_iff.mp hs with rfl | hs
    · exact hcomment hcode
    · exact tail_plain (hasComment_iff.mpr ⟨s, hs, hcomment⟩)
  | cons p comments =>
    -- The character stands in the stretch in front of the first comment.
    obtain ⟨g, s⟩ := p
    rw [List.forall_mem_cons] at plain closed
    have hstretch : ¬ ['/', '*'] <:+: c :: g := by
      rw [List.infix_cons_iff, not_or]
      refine ⟨?_, plain.1⟩
      rintro ⟨v, hv⟩
      cases hv
      -- A comment would begin with the character, as the first one is closed behind it.
      obtain ⟨u, hu⟩ := exists_text_eq (c := ⟨_, tail, _, _, tail_plain⟩) rfl
      rw [hu] at hcode
      exact comment?_opening_ne_none v s u hcode
    refine ⟨⟨(c :: g, s) :: comments, tail, ?_, ?_, tail_plain⟩, rfl⟩
    · exact List.forall_mem_cons.mpr ⟨hstretch, plain.2⟩
    · exact List.forall_mem_cons.mpr closed

/-- Every text can be written as stretches and comments. -/
theorem exists_commented (t : Text) : ∃ c : Commented, c.text = t := by
  -- The induction is on the pieces of the text.
  induction t using pieces.induct with
  | case1 t span rest hcomment _ ih =>
    obtain ⟨d, rfl⟩ := ih
    obtain ⟨s, rfl, hs⟩ := exists_of_comment? hcomment
    rw [comment?_append hcomment]
    exact d.exists_span_append hs
  | case2 _ => exact ⟨⟨[], [], by simp, by simp, by simp [HasComment]⟩, rfl⟩
  | case3 c cs hcode ih =>
    obtain ⟨d, rfl⟩ := ih
    exact d.exists_cons hcode

end Style

end DesignTokens
