import DesignTokens.Proofs.Scanner.Completeness
import DesignTokens.Proofs.Style.Comment

/-!
# References around a text

A text is put into the fallback of a reference: `var(--x,` before it and `)` behind it.  If its
parentheses are balanced, no reference inside it uses the parenthesis behind it, so a scan finds in
the fallback what it finds in the text alone, further to the right.

The reference around the text is found only if its fallback can be read, and a fallback has
parentheses one level deep at most.  So the scan of the whole is composed of the outer reference and
the scan of the text exactly if no parenthesis of the text is opened inside another one
(`lineHits_around`).
-/

namespace DesignTokens

open Style

variable {line : Int} {ns t u : Text} {r : Reference}

/-! ### Places further to the right -/

/-- The same hit, further to the right in its line. -/
def Hit.shift (n : Nat) (h : Hit) : Hit :=
  { h with start := n + h.start, stop := n + h.stop,
           nameStart := n + h.nameStart, nameStop := n + h.nameStop }

/-- A reference that stands further to the right has its hit shifted by as much. -/
lemma Hit.ofReference_add (line : Int) (n column : Nat) (r : Reference) :
    Hit.ofReference line (n + column) r = (Hit.ofReference line column r).shift n := by
  simp only [Hit.ofReference, Hit.shift, Nat.add_assoc]

/-- A text further to the right has the same references further to the right. -/
lemma everyHit_add (line : Int) (n column : Nat) (t : Text) :
    everyHit line (n + column) t = (everyHit line column t).map (Hit.shift n) := by
  induction t generalizing column with
  | nil => rfl
  | cons c t ih =>
    have hhere : hitHere line (n + column) (c :: t)
        = (hitHere line column (c :: t)).map (Hit.shift n) := by
      rw [hitHere, hitHere, ← Option.toList_map, Option.map_map]
      simp only [Hit.ofReference_add]
      rfl
    rw [everyHit, everyHit, hhere, Nat.add_assoc, ih, List.map_append]

/-! ### The reference around a text -/

/-- Behind a name and a comma, a reference is read if its fallback is. -/
lemma reference?_of_comma (hne : ns ≠ []) (hns : ∀ c ∈ ns, isAsciiNameChar c) (u : Text) :
    reference? isAsciiNameChar (Reference.opening ++ ('-' :: '-' :: ns ++ ',' :: u))
      = (fallback? false u).map fun (f, rest) => (⟨[], '-' :: '-' :: ns, [], some f⟩, rest) := by
  have hafter := Text.after?_eq_some_iff.mpr
    (rfl : Reference.opening ++ ('-' :: '-' :: ns ++ ',' :: u)
      = Reference.opening ++ ('-' :: '-' :: ns ++ ',' :: u))
  have hcomma : ∀ c ∈ (',' :: u).head?, isAsciiNameChar c = false := by
    rintro c ⟨⟩
    decide
  have hname := referenceName?_eq_some_iff.mpr ⟨ns, hne, hns, hcomma, rfl, rfl⟩
  have hdash : isBlank '-' = false := by decide
  have hblank : isBlank ',' = false := by decide
  have hleft : Text.stripLeft ('-' :: '-' :: ns ++ ',' :: u) = '-' :: '-' :: ns ++ ',' :: u :=
    List.dropWhile_cons_of_neg (by simp [hdash])
  have hbehind : Text.stripLeft (',' :: u) = ',' :: u :=
    List.dropWhile_cons_of_neg (by simp [hblank])
  have hlead : ('-' :: '-' :: ns ++ ',' :: u).takeWhile isBlank = [] :=
    List.takeWhile_cons_of_neg (by simp [hdash])
  have hgap : (',' :: u).takeWhile isBlank = [] :=
    List.takeWhile_cons_of_neg (by simp [hblank])
  simp only [reference?, hafter, hleft, hname, hbehind, hlead, hgap, referenceTail?,
    Option.bind_eq_bind, Option.bind_some]
  cases fallback? false u <;> rfl

/-- A balanced text before a last parenthesis is a fallback exactly if it is flat. -/
lemma fallback?_append_close (ht : Balanced t) :
    fallback? false (t ++ [')']) = if IsFlat t then some (t, []) else none := by
  split
  · next hflat => exact (fallbackText_iff.mpr ⟨ht, hflat⟩).fallback?_eq []
  · next hflat =>
    rw [← Option.not_isSome_iff_eq_none, Option.isSome_iff_exists]
    rintro ⟨⟨f, rest⟩, hf⟩
    have hfallback := fallbackText_of_fallback?.1 hf
    -- The parenthesis behind the fallback is the last one: before it, all are closed.
    rcases List.append_eq_append_iff.mp (fallback?_append hf) with ⟨q, rfl, hq⟩ | ⟨q, rfl, hq⟩
    · obtain ⟨rfl, -⟩ | ⟨-, hnil⟩ := List.append_eq_singleton_iff.mp hq.symm
      · rw [List.append_nil] at hfallback
        exact hflat hfallback.isFlat
      · cases hnil
    · cases q with
      | nil =>
        rw [List.append_nil] at hflat
        exact hflat hfallback.isFlat
      | cons c q =>
        obtain ⟨rfl, -⟩ := List.cons.inj hq
        have hdepth := ht.depth_nonneg (f ++ [')']) q (by simp)
        have hclose : depth [')'] = -1 := by decide
        rw [depth_append, hfallback.balanced.depth_eq, hclose] at hdepth
        omega

/-- Before the text that is put into it, a reference has no place where another one begins. -/
lemma everyHit_of_comma (hne : ns ≠ []) (hns : ∀ c ∈ ns, isAsciiNameChar c) (u : Text) :
    everyHit line 0 (Reference.opening ++ ('-' :: '-' :: ns ++ ',' :: u))
      = hitHere line 0 (Reference.opening ++ ('-' :: '-' :: ns ++ ',' :: u))
        ++ everyHit line (ns.length + 7) u := by
  have hr : (⟨[], '-' :: '-' :: ns, [], none⟩ : Reference).IsWellFormed isAsciiNameChar :=
    ⟨by simp, ⟨ns, hne, hns, rfl⟩, by simp, by simp⟩
  have hinert := inert_before_fallback hr ',' (by decide) line 1 u
  have hsplit : Reference.opening ++ ('-' :: '-' :: ns ++ ',' :: u)
      = 'v' :: (('a' :: 'r' :: '(' :: ([] ++ '-' :: '-' :: ns ++ [] ++ [','])) ++ u) := by
    simp [Reference.opening_eq]
  rw [hsplit, everyHit, hinert]
  congr 2
  simp only [List.length_cons, List.length_append, List.length_nil]
  omega

/-- Around a balanced text, a scan finds the references of the text in their places, and before them
the reference around it exactly if no parenthesis of the text is opened inside another one. -/
theorem lineHits_around (line : Int) (hne : ns ≠ []) (hns : ∀ c ∈ ns, isAsciiNameChar c)
    (ht : Balanced t) (hplain : ¬ ['/', '*'] <:+: t) :
    let opening := "var(--".toList ++ ns ++ [',']
    let text := opening ++ t ++ [')']
    let outer : Hit :=
      { line, start := 0, stop := text.length, nameStart := 4, nameStop := 6 + ns.length,
        name := "--".toList ++ ns, text,
        fallback := if Text.strip t = [] then none else some (Text.strip t) }
    let inner := (lineHits t line).map (Hit.shift opening.length)
    lineHits text line = if IsFlat t then outer :: inner else inner := by
  intro opening text outer inner
  have hslash : '/' ∉ opening := by
    simp only [opening, List.mem_append, not_or]
    exact ⟨⟨by decide, fun h => absurd (hns _ h) (by decide)⟩, by decide⟩
  -- What stands around the text opens no comment with it, so that nothing is blanked.
  have hwhole : ¬ ['/', '*'] <:+: text := by
    intro h
    have hbehind := Text.pair_infix_of_not_mem_right h (by decide)
    exact hplain (Text.pair_infix_of_not_mem_left hbehind hslash)
  have hscan : ∀ u : Text, ¬ ['/', '*'] <:+: u → lineHits u line = everyHit line 0 u := by
    intro u hu
    rw [lineHits, blankComments_eq_self (comment?_eq_none_of_no_opening hu), hitsAt_eq_everyHit]
  have htext : text = Reference.opening ++ ('-' :: '-' :: ns ++ ',' :: (t ++ [')'])) := by
    simp [text, opening, Reference.opening_eq]
  have hlength : opening.length = ns.length + 7 := by
    simp only [opening, List.length_append, List.length_singleton]
    have hcall : "var(--".toList.length = 6 := by decide
    omega
  have hinner : everyHit line (ns.length + 7) (t ++ [')']) = inner := by
    rw [everyHit_append_close ht, everyHit, List.append_nil, ← hlength]
    exact (everyHit_add line opening.length 0 t).trans (congrArg _ (hscan t hplain).symm)
  have hreference : Hit.ofReference line 0 ⟨[], '-' :: '-' :: ns, [], some t⟩ = outer := by
    have hcall : (⟨[], '-' :: '-' :: ns, [], some t⟩ : Reference).text = text := by
      simp [Reference.text, Reference.opening_eq, text, opening]
    have hfallback : (⟨[], '-' :: '-' :: ns, [], some t⟩ : Reference).trimmedFallback?
        = if Text.strip t = [] then none else some (Text.strip t) := by
      rw [Reference.trimmedFallback?, Option.map_some]
      split
      · next hblank => simp [hblank]
      · next hblank => simp [Option.filter, hblank]
    simp only [Hit.ofReference, hcall, hfallback, Nat.zero_add, outer, Hit.mk.injEq, true_and]
    refine ⟨rfl, ?_, rfl, trivial⟩
    simp only [Reference.opening_eq, List.length_cons, List.length_nil]
    omega
  have hhere : hitHere line 0 text = if IsFlat t then [outer] else [] := by
    rw [hitHere, htext, reference?_of_comma hne hns, fallback?_append_close ht]
    split
    · exact congrArg (fun h => [h]) hreference
    · rfl
  rw [hscan text hwhole, htext, everyHit_of_comma hne hns, ← htext, hhere, hinner]
  split <;> rfl

/-- Around a text with a group and a reference beside it, a scan finds two references. -/
theorem lineHits_around_sum :
    let t := " calc(1px) + var(--b,\t2px) ".toList
    Balanced t ∧ IsFlat t ∧ ¬ ['/', '*'] <:+: t ∧
      lineHits ("var(--a,".toList ++ t ++ [')']) 2
        = [⟨2, 0, 36, 4, 7, "--a".toList, "var(--a, calc(1px) + var(--b,\t2px) )".toList,
            some "calc(1px) + var(--b,\t2px)".toList⟩,
          ⟨2, 21, 34, 25, 28, "--b".toList, "var(--b,\t2px)".toList, some "2px".toList⟩] := by
  intro t
  have hbalanced : Balanced t := by decide +kernel
  have hflat : IsFlat t := by decide +kernel
  have hplain : ¬ ['/', '*'] <:+: t := by decide +kernel
  have hns : ∀ c ∈ ['a'], isAsciiNameChar c := by decide
  refine ⟨hbalanced, hflat, hplain, ?_⟩
  have haround := lineHits_around 2 (List.cons_ne_nil 'a' []) hns hbalanced hplain
  dsimp only at haround
  rw [if_pos hflat] at haround
  refine haround.trans ?_
  decide +kernel

/-- A group inside a group keeps the reference around the text from being found. -/
theorem lineHits_around_nested :
    let t := "var(--b,var(--c))".toList
    Balanced t ∧ '\n' ∉ t ∧ ¬ ['/', '*'] <:+: t ∧ ¬ ['*', '/'] <:+: t ∧
      ∀ outer, lineHits ("var(--a,".toList ++ t ++ [')']) 0
        ≠ outer :: (lineHits t 0).map (Hit.shift "var(--a,".toList.length) := by
  intro t
  refine ⟨by decide +kernel, by decide +kernel, by decide +kernel, by decide +kernel, ?_⟩
  intro outer h
  have hlength := congrArg List.length h
  rw [List.length_cons, List.length_map] at hlength
  revert hlength
  decide +kernel

end DesignTokens
