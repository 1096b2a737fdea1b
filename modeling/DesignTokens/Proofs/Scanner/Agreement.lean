import DesignTokens.Proofs.Scanner.Completeness
import DesignTokens.Proofs.Style.Comment
import DesignTokens.Proofs.Style.Resolution

/-!
# Two readers of references

References are read twice: resolution cuts a text into segments and replaces the references among
them, and a scan reports the references of a line with their places.  Resolution does not look
inside a fallback before it puts it in the place of a reference, so the hits that can be compared
with its segments are the outermost ones, those that are not inside another hit.

The two readers differ in their names.  A scan reads the ASCII characters of a word only, resolution
reads all of them.  So a scan reports exactly those references of the resolution that have an ASCII
name, and its outermost hits are the references of the resolution where all of them have one
(`outermost_lineHits_eq_iff`).
-/

namespace DesignTokens

open Style

variable {line : Int} {column : Nat} {t rest : Text} {r : Reference} {h k : Hit}
  {hs inner behind : List Hit} {ss : List Segment}

/-! ### Outermost hits -/

/-- A hit is inside another one of its line if it begins later and does not end later. -/
def Hit.IsInside (h k : Hit) : Prop :=
  h.line = k.line ∧ k.start < h.start ∧ h.stop ≤ k.stop

instance : DecidableRel Hit.IsInside :=
  fun _ _ => inferInstanceAs (Decidable (_ ∧ _ ∧ _))

/-- The hits that are not inside another one. -/
def outermost (hs : List Hit) : List Hit :=
  hs.filter fun h => ∀ k ∈ hs, ¬ h.IsInside k

/-- A hit hides those that are inside it.  It leaves alone those behind it, which do not hide it
either. -/
lemma outermost_cons (hinner : ∀ k ∈ inner, k.IsInside h)
    (hbehind : ∀ k ∈ behind, h.stop ≤ k.start ∧ k.start < k.stop) (hpos : h.start < h.stop) :
    outermost (h :: (inner ++ behind)) = h :: outermost behind := by
  have hself : ∀ k ∈ h :: (inner ++ behind), ¬ h.IsInside k := by
    rintro k hk ⟨-, hstart, -⟩
    rcases List.mem_cons.mp hk with rfl | hk
    · exact Nat.lt_irrefl _ hstart
    · rcases List.mem_append.mp hk with hk | hk
      · exact Nat.lt_asymm hstart (hinner k hk).2.1
      · have hbelow := (hbehind k hk).1
        omega
  have hhidden : inner.filter (fun k => ∀ l ∈ h :: (inner ++ behind), ¬ k.IsInside l) = [] := by
    rw [List.filter_eq_nil_iff]
    intro k hk hnone
    rw [decide_eq_true_eq] at hnone
    exact hnone h List.mem_cons_self (hinner k hk)
  have hkept : behind.filter (fun k => ∀ l ∈ h :: (inner ++ behind), ¬ k.IsInside l)
      = outermost behind := by
    refine List.filter_congr fun k hk => ?_
    obtain ⟨hstart, hstop⟩ := hbehind k hk
    rw [decide_eq_decide]
    constructor
    · intro hnone l hl
      exact hnone l (List.mem_cons_of_mem h (List.mem_append_right inner hl))
    · rintro hnone l hl ⟨hline, hlater, hend⟩
      rcases List.mem_cons.mp hl with rfl | hl
      · omega
      · rcases List.mem_append.mp hl with hl | hl
        · have hinside := (hinner l hl).2.2
          omega
        · exact hnone l hl ⟨hline, hlater, hend⟩
  rw [outermost, List.filter_cons, if_pos (decide_eq_true hself), List.filter_append, hhidden,
    hkept, List.nil_append]

/-- A hit is not empty. -/
lemma Hit.start_lt_stop (line : Int) (column : Nat) (r : Reference) :
    (Hit.ofReference line column r).start < (Hit.ofReference line column r).stop := by
  simp only [Hit.ofReference, Reference.text, Reference.opening_eq, List.length_append,
    List.length_cons]
  omega

/-- What is found in the fallback of a reference is inside the reference. -/
lemma isInside_of_mem_fallback
    (hk : k ∈ everyHit line (Hit.fallbackColumn column r) (r.fallback.getD [])) :
    k.IsInside (Hit.ofReference line column r) := by
  obtain ⟨before, r', after, -, hsplit, rfl⟩ := mem_everyHit.mp hk
  have hlength := congrArg List.length hsplit
  refine ⟨rfl, ?_, ?_⟩
  · simp only [Hit.ofReference, Hit.fallbackColumn, Reference.opening_eq, List.length_cons]
    omega
  · cases hf : r.fallback with
    | none =>
      rw [hf] at hsplit
      simp [Reference.text] at hsplit
    | some f =>
      have hend := Hit.fallbackColumn_add column hf
      rw [hf, Option.getD_some, List.length_append, List.length_append] at hlength
      simp only [Hit.ofReference]
      omega

/-! ### Segments with their places -/

/-- The references among the segments of a text that stands at a column of a line, as hits. -/
def callHits (line : Int) (column : Nat) : List Segment → List Hit
  | [] => []
  | .plain _ :: ss => callHits line (column + 1) ss
  | .call r :: ss => Hit.ofReference line column r :: callHits line (column + r.text.length) ss

/-- Every reference among the segments has a hit of its name. -/
lemma exists_mem_callHits (line : Int) (column : Nat) (hr : .call r ∈ ss) :
    ∃ k ∈ callHits line column ss, k.name = r.name := by
  induction ss generalizing column with
  | nil => cases hr
  | cons s ss ih =>
    cases s with
    | plain c =>
      rcases List.mem_cons.mp hr with heq | hr
      · cases heq
      · exact ih _ hr
    | call r' =>
      rcases List.mem_cons.mp hr with heq | hr
      · cases heq
        exact ⟨_, List.mem_cons_self, rfl⟩
      · obtain ⟨k, hk, hname⟩ := ih _ hr
        exact ⟨k, List.mem_cons_of_mem _ hk, hname⟩

/-- A reference among segments stands at its place in the text that they make up. -/
lemma exists_of_mem_callHits (hh : h ∈ callHits line column ss) :
    ∃ before r after, .call r ∈ ss ∧ textOf ss = before ++ r.text ++ after ∧
      h = Hit.ofReference line (column + before.length) r := by
  induction ss generalizing column with
  | nil => cases hh
  | cons s ss ih =>
    cases s with
    | plain c =>
      obtain ⟨before, r, after, hr, hsplit, rfl⟩ := ih hh
      refine ⟨c :: before, r, after, List.mem_cons_of_mem _ hr, congrArg (c :: ·) hsplit, ?_⟩
      rw [List.length_cons, Nat.add_right_comm, Nat.add_assoc]
    | call r' =>
      rcases List.mem_cons.mp hh with rfl | hh
      · exact ⟨[], r', textOf ss, List.mem_cons_self, rfl, rfl⟩
      · obtain ⟨before, r, after, hr, hsplit, rfl⟩ := ih hh
        refine ⟨r'.text ++ before, r, after, List.mem_cons_of_mem _ hr, ?_, ?_⟩
        · rw [List.append_assoc, List.append_assoc, ← List.append_assoc before, ← hsplit]
          rfl
        · rw [List.length_append, Nat.add_assoc]

/-- The outermost references of a text are those that are met on the way from left to right. -/
lemma outermost_everyHit :
    outermost (everyHit line column t) = callHits line column (segments isAsciiNameChar t) := by
  induction t using segments.induct isAsciiNameChar generalizing column with
  | case1 t r rest hr _ ih =>
    rw [everyHit_of_reference hr, segments_of_reference hr, callHits, ← ih]
    refine outermost_cons (fun k hk => isInside_of_mem_fallback hk) (fun k hk => ?_)
      (Hit.start_lt_stop line column r)
    obtain ⟨before, r', after, -, -, rfl⟩ := mem_everyHit.mp hk
    exact ⟨Nat.le_add_right _ _, Hit.start_lt_stop _ _ r'⟩
  | case2 _ =>
    rw [segments_nil]
    rfl
  | case3 c cs hnone ih =>
    rw [everyHit, hitHere_eq_nil hnone, List.nil_append, segments_of_plain hnone, callHits, ih]

/-! ### The two classes of names -/

/-- A reference is well formed for the scan if it is for the resolution and has an ASCII name. -/
lemma isWellFormed_ascii_iff :
    r.IsWellFormed isAsciiNameChar
      ↔ r.IsWellFormed isNameChar ∧ r.name.all isAsciiNameChar := by
  constructor
  · rintro ⟨hlead, ⟨ns, hne, hns, hname⟩, hgap, hfallback⟩
    refine ⟨⟨hlead, ⟨ns, hne, fun c hc => ?_, hname⟩, hgap, hfallback⟩, ?_⟩
    · exact isNameChar_of_isAsciiNameChar (hns c hc)
    · rw [hname, List.all_cons, List.all_cons, List.all_eq_true.mpr hns]
      rfl
  · rintro ⟨⟨hlead, ⟨ns, hne, -, hname⟩, hgap, hfallback⟩, hascii⟩
    refine ⟨hlead, ⟨ns, hne, fun c hc => ?_, hname⟩, hgap, hfallback⟩
    rw [hname, List.all_eq_true] at hascii
    exact hascii c (List.mem_cons_of_mem _ (List.mem_cons_of_mem _ hc))

/-- The scan reads a reference where the resolution reads one with an ASCII name. -/
lemma reference?_ascii_iff :
    reference? isAsciiNameChar t = some (r, rest)
      ↔ reference? isNameChar t = some (r, rest) ∧ r.name.all isAsciiNameChar := by
  rw [reference?_eq_some_iff isNameClass_ascii, reference?_eq_some_iff isNameClass_word,
    isWellFormed_ascii_iff, and_right_comm]

/-- Where all names are ASCII, both readers cut a text into the same segments. -/
lemma segments_ascii_eq
    (hascii : ∀ r, .call r ∈ segments isNameChar t → r.name.all isAsciiNameChar) :
    segments isAsciiNameChar t = segments isNameChar t := by
  induction t using segments.induct isNameChar with
  | case1 t r rest hr _ ih =>
    rw [segments_of_reference hr] at hascii ⊢
    have hread := reference?_ascii_iff.mpr ⟨hr, hascii r List.mem_cons_self⟩
    rw [segments_of_reference hread, ih fun r' hr' => hascii r' (List.mem_cons_of_mem _ hr')]
  | case2 _ => rw [segments_nil, segments_nil]
  | case3 c cs hnone ih =>
    have hread : reference? isAsciiNameChar (c :: cs) = none := by
      rw [← Option.not_isSome_iff_eq_none, Option.isSome_iff_exists]
      rintro ⟨⟨r, rest⟩, hr⟩
      rw [(reference?_ascii_iff.mp hr).1] at hnone
      cases hnone
    rw [segments_of_plain hnone] at hascii ⊢
    rw [segments_of_plain hread, ih fun r' hr' => hascii r' (List.mem_cons_of_mem _ hr')]

/-! ### The agreement -/

/-- No comment begins anywhere in a text. -/
def CommentFree (t : Text) : Prop :=
  ∀ s, s <:+ t → comment? s = none

instance (t : Text) : Decidable (CommentFree t) :=
  decidable_of_iff (∀ s ∈ t.tails, comment? s = none) (by simp only [CommentFree, List.mem_tails])

/-- On a line without comments the hits are those of the line as it stands. -/
lemma lineHits_of_commentFree (hplain : CommentFree t) : lineHits t line = everyHit line 0 t := by
  rw [lineHits, blankComments_eq_self hplain, hitsAt_eq_everyHit]

/-- Of the references that resolution replaces in a text without comments, a scan reports exactly
those with an ASCII name.  Its outermost hits are all of them, at their places, with their names and
fallbacks, and no others, exactly where all have such a name. -/
theorem outermost_lineHits_eq_iff (line : Int) (hplain : CommentFree t) :
    let calls := segments isNameChar t
    (∀ h ∈ callHits line 0 calls, h ∈ lineHits t line ↔ h.name.all isAsciiNameChar) ∧
      (outermost (lineHits t line) = callHits line 0 calls
        ↔ ∀ h ∈ callHits line 0 calls, h.name.all isAsciiNameChar) := by
  intro calls
  have hreported : ∀ h ∈ callHits line 0 calls,
      h ∈ lineHits t line ↔ h.name.all isAsciiNameChar := by
    intro h hh
    rw [lineHits_of_commentFree hplain]
    obtain ⟨before, r, after, hr, hsplit, rfl⟩ := exists_of_mem_callHits hh
    rw [textOf_segments] at hsplit
    constructor
    · intro hmem
      obtain ⟨before', r', after', hr', -, heq⟩ := mem_everyHit.mp hmem
      have hname : r.name = r'.name := congrArg Hit.name heq
      change r.name.all isAsciiNameChar
      rw [hname]
      exact (isWellFormed_ascii_iff.mp hr').2
    · intro hascii
      have hword := isWellFormed_of_mem_segments isNameClass_word hr
      exact mem_everyHit.mpr
        ⟨before, r, after, isWellFormed_ascii_iff.mpr ⟨hword, hascii⟩, hsplit, rfl⟩
  refine ⟨hreported, ?_, ?_⟩
  · intro heq h hh
    have hmem : h ∈ lineHits t line := by
      rw [← heq] at hh
      exact List.mem_of_mem_filter hh
    exact (hreported h hh).mp hmem
  · intro hascii
    rw [lineHits_of_commentFree hplain, outermost_everyHit, segments_ascii_eq]
    intro r hr
    obtain ⟨h, hh, hname⟩ := exists_mem_callHits line 0 hr
    exact hname ▸ hascii h hh

/-- The two references of a sum, one of which has another one in its fallback, are the outermost
hits of the scan. -/
theorem outermost_lineHits_eq_of_sum :
    let t := "calc(1px / var(--a, f(1)) + var( --b-2 , var(--c)))".toList
    CommentFree t ∧ (lineHits t 3).length = 3 ∧
      outermost (lineHits t 3) = callHits 3 0 (segments isNameChar t) ∧
        (callHits 3 0 (segments isNameChar t)).map Hit.name = ["--a".toList, "--b-2".toList] := by
  intro t
  have hplain : CommentFree t := by decide +kernel
  have hascii : ∀ h ∈ callHits 3 0 (segments isNameChar t), h.name.all isAsciiNameChar := by
    decide +kernel
  exact ⟨hplain, by decide +kernel, (outermost_lineHits_eq_iff 3 hplain).2.mpr hascii,
    by decide +kernel⟩

/-- A name with a letter beyond ASCII is defined by a style text and replaced by its value, but a
scan does not find it. -/
theorem outermost_lineHits_ne_of_letter_beyond_ascii :
    let vs := variablesOf .scopes ":root \x7b --\u00e9: 1px; \x7d".toList
    let t := "var(--\u00e9)".toList
    CommentFree t ∧ resolve vs referenceDepth t = "1px".toList ∧
      callHits 0 0 (segments isNameChar t) = [⟨0, 0, 8, 4, 7, "--\u00e9".toList, t, none⟩] ∧
        outermost (lineHits t 0) = [] := by
  decide +kernel

end DesignTokens
