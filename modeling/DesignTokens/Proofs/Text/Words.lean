import DesignTokens.Proofs.Text.Split
import DesignTokens.Text.Blank
import DesignTokens.Text.Word
import Mathlib.Data.List.DropRight

/-!
# Words and white space

White space at the ends of a text does not count when the text is collapsed or trimmed.  Collapsing
keeps every other character, and the only white space that it leaves are single spaces.  Trimming a
text leaves what stands between the white space at its ends.
-/

namespace DesignTokens

namespace Text

variable {c : Char} {s t : Text}

/-- White space cuts a text into words. -/
lemma words_append_cons (hc : isBlank c) (s t : Text) :
    words (s ++ c :: t) = words s ++ words t := by
  rw [words, List.splitOnP_append_cons s t hc, List.filter_append, words, words]

/-- White space at the front belongs to no word. -/
lemma words_cons_of_blank (hc : isBlank c) (t : Text) : words (c :: t) = words t :=
  words_append_cons hc [] t

/-- What is blank has no words. -/
lemma words_of_blank (ht : ∀ c ∈ t, isBlank c) : words t = [] := by
  induction t with
  | nil => rfl
  | cons c t ih =>
    rw [List.forall_mem_cons] at ht
    rw [words_cons_of_blank ht.1, ih ht.2]

/-- White space at the front does not count. -/
lemma collapse_append_of_blank (hs : ∀ c ∈ s, isBlank c) (t : Text) :
    collapse (s ++ t) = collapse t := by
  induction s with
  | nil => rfl
  | cons c s ih =>
    rw [List.forall_mem_cons] at hs
    rw [List.cons_append, collapse, words_cons_of_blank hs.1]
    exact ih hs.2

/-- White space at the end does not count either. -/
lemma collapse_append_blank (hs : ∀ c ∈ s, isBlank c) (t : Text) :
    collapse (t ++ s) = collapse t := by
  cases s with
  | nil => rw [List.append_nil]
  | cons c s =>
    rw [List.forall_mem_cons] at hs
    rw [collapse, words_append_cons hs.1, words_of_blank hs.2, List.append_nil, collapse]

/-- What is blank collapses to nothing. -/
lemma collapse_of_blank (ht : ∀ c ∈ t, isBlank c) : collapse t = [] := by
  rw [collapse, words_of_blank ht]
  rfl

/-- Every other character stays. -/
lemma mem_collapse (hmem : c ∈ t) (hc : isBlank c = false) : c ∈ collapse t := by
  obtain ⟨w, hw, hcw⟩ := exists_mem_splitOnP hmem hc
  have hword : w ∈ words t := by
    refine List.mem_filter.mpr ⟨hw, ?_⟩
    simpa using List.ne_nil_of_mem hcw
  exact (infix_intercalate hword).subset hcw

/-- Nothing else collapses to nothing. -/
lemma collapse_eq_nil_iff : collapse t = [] ↔ t.all isBlank := by
  rw [List.all_eq_true]
  refine ⟨fun hnil c hc => ?_, collapse_of_blank⟩
  by_contra hvisible
  have hmem := mem_collapse hc (Bool.not_eq_true _ ▸ hvisible)
  rw [hnil] at hmem
  cases hmem

/-- A text with something else in it has words. -/
lemma words_ne_nil (hmem : c ∈ t) (hc : isBlank c = false) : words t ≠ [] := by
  intro hnone
  have hcollapse := mem_collapse hmem hc
  rw [collapse, hnone] at hcollapse
  cases hcollapse

/-- The only white space that is left are spaces. -/
lemma eq_space_of_mem_collapse (h : c ∈ collapse t) (hc : isBlank c) : c = ' ' := by
  refine (mem_of_mem_intercalate h).resolve_right ?_
  rintro ⟨w, hw, hcw⟩
  have hnot := not_of_mem_splitOnP (List.mem_filter.mp hw).1 hcw
  rw [hc] at hnot
  cases hnot

/-! ### White space at the ends -/

/-- What is stripped at the front is white space. -/
lemma exists_stripLeft (t : Text) : ∃ b, (∀ c ∈ b, isBlank c) ∧ t = b ++ stripLeft t :=
  ⟨t.takeWhile isBlank, fun _ hc => List.mem_takeWhile_imp hc, List.takeWhile_append_dropWhile.symm⟩

/-- What stands before the trimmed text is the white space at the front. -/
lemma take_blank (t : Text) :
    t.take (t.length - (stripLeft t).length) = t.takeWhile isBlank := by
  have hsplit : t.takeWhile isBlank ++ stripLeft t = t := List.takeWhile_append_dropWhile
  have hlength : t.length - (stripLeft t).length = (t.takeWhile isBlank).length := by
    have hsum := congrArg List.length hsplit
    rw [List.length_append] at hsum
    omega
  rw [hlength]
  exact (List.prefix_iff_eq_take.mp (List.takeWhile_prefix isBlank)).symm

/-- White space at the front is stripped. -/
lemma stripLeft_append_of_blank (hs : ∀ c ∈ s, isBlank c) (ht : ∀ c ∈ t.head?, isBlank c = false) :
    stripLeft (s ++ t) = t := by
  rw [stripLeft, List.dropWhile_append_of_pos hs]
  cases t with
  | nil => rfl
  | cons c t => exact List.dropWhile_cons_of_neg (by simp [ht c rfl])

/-- Stripping at the front does not go beyond a character that is no white space. -/
lemma stripLeft_append_cons (hc : isBlank c = false) (s t : Text) :
    stripLeft (s ++ c :: t) = stripLeft s ++ c :: t := by
  rw [stripLeft, List.dropWhile_append, ← stripLeft]
  split
  · next h => rw [List.isEmpty_iff.mp h, List.nil_append, List.dropWhile_cons_of_neg (by simp [hc])]
  · rfl

/-- Stripping at the end does not go beyond a character that is no white space. -/
lemma stripRight_append_cons (hc : isBlank c = false) (s t : Text) :
    stripRight (s ++ c :: t) = s ++ c :: stripRight t := by
  have hreverse : (s ++ c :: t).reverse = t.reverse ++ c :: s.reverse := by simp
  rw [stripRight, hreverse, ← stripLeft, stripLeft_append_cons hc, stripLeft, stripRight]
  simp

/-- Around a character that is not white space, each side is trimmed at its end. -/
lemma strip_append_cons (hc : isBlank c = false) (s t : Text) :
    strip (s ++ c :: t) = stripLeft s ++ c :: stripRight t := by
  rw [strip, stripLeft_append_cons hc, stripRight_append_cons hc]

/-- Trimming strips the front anyway. -/
lemma strip_stripLeft (t : Text) : strip (stripLeft t) = strip t := by
  simp only [strip, stripLeft, List.dropWhile_idempotent]

/-- White space at the end is stripped. -/
lemma stripRight_append_of_blank (hs : ∀ c ∈ s, isBlank c) (t : Text) :
    stripRight (t ++ s) = stripRight t := by
  have hreverse : ∀ c ∈ s.reverse, isBlank c := fun c hc => hs c (List.mem_reverse.mp hc)
  rw [stripRight, List.reverse_append, List.dropWhile_append_of_pos hreverse, ← stripRight]

/-- White space around a text does not count. -/
lemma strip_append_of_blank {u : Text} (hs : ∀ c ∈ s, isBlank c) (hu : ∀ c ∈ u, isBlank c)
    (t : Text) : strip (s ++ (t ++ u)) = strip t := by
  have hleft : stripLeft (s ++ (t ++ u)) = stripLeft (t ++ u) := List.dropWhile_append_of_pos hs
  rw [strip, hleft, stripLeft, List.dropWhile_append]
  split
  · next h =>
    rw [List.dropWhile_eq_nil_iff.mpr hu, strip, stripLeft, List.isEmpty_iff.mp h]
  · rw [stripRight_append_of_blank hu, strip, stripLeft]

/-- What is blank is trimmed to nothing. -/
lemma strip_of_blank (ht : ∀ c ∈ t, isBlank c) : strip t = [] := by
  rw [strip, stripLeft, List.dropWhile_eq_nil_iff.mpr ht]
  rfl

/-- White space at the end does not count when a text is collapsed. -/
lemma collapse_stripRight (t : Text) : collapse (stripRight t) = collapse t := by
  obtain ⟨s, hs, ht⟩ := exists_eq_dropEnd_append isBlank t
  rw [← stripRight] at ht
  nth_rewrite 2 [ht]
  exact (collapse_append_blank hs _).symm

/-- A text has white space at neither end. -/
structure IsTrimmed (t : Text) : Prop where
  /-- There is none at the front. -/
  front : ∀ c ∈ t.head?, isBlank c = false
  /-- There is none at the end. -/
  behind : ∀ c ∈ t.getLast?, isBlank c = false

/-- What is left between the white space at both ends. -/
lemma exists_strip (t : Text) : ∃ a b, (∀ c ∈ a, isBlank c) ∧ (∀ c ∈ b, isBlank c) ∧
    t = a ++ (strip t ++ b) ∧ IsTrimmed (strip t) := by
  obtain ⟨a, ha, hleft⟩ := exists_stripLeft t
  obtain ⟨b, hb, hright⟩ := exists_eq_dropEnd_append isBlank (stripLeft t)
  rw [← stripRight, ← strip] at hright
  refine ⟨a, b, ha, hb, by rw [← hright, ← hleft], ?_, ?_⟩
  · intro c hc
    have hhead : c ∈ (stripLeft t).head? := by
      rw [hright, List.head?_append, Option.mem_def.mp hc]
      rfl
    have hnot := List.head?_dropWhile_not isBlank t
    rw [← stripLeft, Option.mem_def.mp hhead] at hnot
    exact hnot
  · intro c hc
    rw [strip, stripRight, List.getLast?_reverse] at hc
    have hnot := List.head?_dropWhile_not isBlank (stripLeft t).reverse
    rw [Option.mem_def.mp hc] at hnot
    exact hnot

/-- What is not blank is not trimmed to nothing. -/
lemma strip_ne_nil (hmem : c ∈ t) (hc : isBlank c = false) : strip t ≠ [] := by
  intro hnil
  obtain ⟨a, b, ha, hb, ht, -⟩ := exists_strip t
  rw [hnil, List.nil_append] at ht
  rw [ht, List.mem_append] at hmem
  rw [hmem.elim (ha c) (hb c)] at hc
  cases hc

/-- A trimmed text is trimmed to itself. -/
lemma IsTrimmed.strip_eq (h : IsTrimmed t) : strip t = t := by
  have hsame : ∀ u : Text, (∀ c ∈ u.head?, isBlank c = false) → stripLeft u = u :=
    fun _ hu => stripLeft_append_of_blank (List.forall_mem_nil _) hu
  have hright : stripLeft t.reverse = t.reverse := by
    refine hsame _ ?_
    rw [List.head?_reverse]
    exact h.behind
  rw [strip, hsame t h.front, stripRight, ← stripLeft, hright, List.reverse_reverse]

/-- A text that ends with a trimmed one does not end with white space. -/
lemma IsTrimmed.eq_nil_of_append_eq (h : IsTrimmed t) (hne : t ≠ []) (hs : ∀ c ∈ s, isBlank c)
    {x y : Text} (heq : x ++ s = y ++ t) : s = [] := by
  by_contra hsome
  obtain ⟨c, hc⟩ := Option.ne_none_iff_exists'.mp (mt List.getLast?_eq_none_iff.mp hsome)
  obtain ⟨d, hd⟩ := Option.ne_none_iff_exists'.mp (mt List.getLast?_eq_none_iff.mp hne)
  have hlast := congrArg List.getLast? heq
  rw [List.getLast?_append, List.getLast?_append, hc, hd, Option.some_or, Option.some_or,
    Option.some.injEq] at hlast
  have hblank := hs c (List.mem_of_getLast? hc)
  rw [hlast, h.behind d hd] at hblank
  cases hblank

/-! ### White space, letters and word characters -/

/-- The code points of the ASCII letters. -/
lemma toNat_of_isAlpha (hc : c.isAlpha) :
    65 ≤ c.toNat ∧ c.toNat ≤ 90 ∨ 97 ≤ c.toNat ∧ c.toNat ≤ 122 := by
  have hrange : ∀ a b : Char, c.val ≥ a.val ∧ c.val ≤ b.val →
      a.toNat ≤ c.toNat ∧ c.toNat ≤ b.toNat :=
    fun a b h => ⟨UInt32.le_iff_toNat_le.mp h.1, UInt32.le_iff_toNat_le.mp h.2⟩
  rcases Bool.or_eq_true_iff.mp hc with hupper | hlower
  · exact Or.inl (hrange 'A' 'Z' (of_decide_eq_true hupper))
  · obtain ⟨hfrom, hto⟩ := Bool.and_eq_true_iff.mp hlower
    exact Or.inr (hrange 'a' 'z' ⟨of_decide_eq_true hfrom, of_decide_eq_true hto⟩)

/-- The code points of white space. -/
def blankCodes : List Nat :=
  List.range' 0x9 5 ++ List.range' 0x1C 5 ++ [0x85, 0xA0, 0x1680] ++ List.range' 0x2000 11
    ++ [0x2028, 0x2029, 0x202F, 0x205F, 0x3000]

/-- White space has one of the code points of the list. -/
lemma mem_blankCodes (hc : isBlank c) : c.toNat ∈ blankCodes := by
  simp only [isBlank, Bool.or_eq_true, Bool.and_eq_true, decide_eq_true_eq, beq_iff_eq] at hc
  simp only [blankCodes, List.mem_append, List.mem_range'_1, List.mem_cons, List.not_mem_nil,
    or_false]
  omega

/-- White space is no part of a word. -/
lemma not_isWordChar_of_blank (hc : isBlank c) : isWordChar c = false := by
  have hnone : ∀ n ∈ blankCodes, isWordChar (Char.ofNat n) = false := by decide +kernel
  have hfalse := hnone c.toNat (mem_blankCodes hc)
  rwa [Char.ofNat_toNat] at hfalse

end Text

end DesignTokens
