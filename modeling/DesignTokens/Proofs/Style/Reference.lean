import DesignTokens.Proofs.Text.Words
import DesignTokens.Style.Reference

/-!
# What counts as a reference

The grammar of references, apart from any reader: white space, a name of two dashes and name
characters, white space, and perhaps a comma and a fallback, which is made of plain characters
and of groups in parentheses.  Reading a reference at the front of a text accepts exactly this
grammar (`reference?_eq_some_iff`), so what begins at a position ends at one place.

The second half counts parentheses.  A reference and a fallback are balanced, and a suffix of a
balanced text closes at least as much as it opens.  Hence a reference that begins inside a fallback
cannot use the parenthesis that closes the fallback: it ends inside as well
(`map_fst_reference?_append_close`).
-/

namespace DesignTokens

namespace Style

variable {isName : Char → Bool} {f g l rest s t u : Text} {r : Reference} {c : Char}

/-! ### Fallbacks -/

/-- A plain character is no parenthesis. -/
def IsPlain (c : Char) : Prop :=
  c ≠ '(' ∧ c ≠ ')'

/-- A fallback is made of plain characters and of groups, which are plain characters between
parentheses. -/
inductive FallbackText : Text → Prop
  /-- Nothing is a fallback. -/
  | nil : FallbackText []
  /-- A plain character may stand in front. -/
  | plain {c : Char} {f : Text} (hc : IsPlain c) (hf : FallbackText f) : FallbackText (c :: f)
  /-- A group may stand in front. -/
  | group {g f : Text} (hg : ∀ c ∈ g, IsPlain c) (hf : FallbackText f) :
      FallbackText ('(' :: (g ++ ')' :: f))

/-- A plain character belongs to the fallback that is read behind it. -/
lemma fallback?_plain (hc : IsPlain c) (inGroup : Bool) (t : Text) :
    fallback? inGroup (c :: t) = (fallback? inGroup t).map fun (f, rest) => (c :: f, rest) := by
  rw [fallback?, if_neg hc.1, if_neg hc.2]

/-- Inside a group, the fallback goes on behind the closing parenthesis. -/
lemma fallback?_group (hg : ∀ c ∈ g, IsPlain c) (t : Text) :
    fallback? true (g ++ ')' :: t)
      = (fallback? false t).map fun (f, rest) => (g ++ ')' :: f, rest) := by
  induction g with
  | nil => simp [fallback?]
  | cons c g ih =>
    rw [List.forall_mem_cons] at hg
    rw [List.cons_append, fallback?_plain hg.1, ih hg.2, Option.map_map]
    rfl

/-- A fallback is read up to the parenthesis behind it. -/
lemma FallbackText.fallback?_eq (hf : FallbackText f) (rest : Text) :
    fallback? false (f ++ ')' :: rest) = some (f, rest) := by
  induction hf with
  | nil => simp [fallback?]
  | plain hc _ ih => rw [List.cons_append, fallback?_plain hc, ih, Option.map_some]
  | @group g f hg _ ih =>
    have hgroup := fallback?_group hg (f ++ ')' :: rest)
    rw [ih, Option.map_some] at hgroup
    rw [List.cons_append, List.append_assoc, List.cons_append, fallback?, if_pos rfl,
      if_neg Bool.false_ne_true]
    dsimp only
    rw [hgroup, Option.map_some]

/-- What is read as a fallback is one; inside a group, what is read begins with the rest of the
group. -/
lemma fallbackText_of_fallback? :
    (∀ {f rest}, fallback? false t = some (f, rest) → FallbackText f) ∧
      ∀ {f rest}, fallback? true t = some (f, rest) →
        ∃ g f', (∀ c ∈ g, IsPlain c) ∧ FallbackText f' ∧ f = g ++ ')' :: f' := by
  -- Both modes at once, as a parenthesis takes the reader from the one into the other.
  induction t with
  | nil => constructor <;> intro f rest h <;> cases h
  | cons c t ih =>
    obtain ⟨ihOutside, ihInside⟩ := ih
    by_cases hopen : c = '('
    · subst hopen
      constructor
      · intro f rest h
        rw [fallback?, if_pos rfl, if_neg Bool.false_ne_true, Option.map_eq_some_iff] at h
        obtain ⟨⟨f', rest'⟩, h', heq⟩ := h
        cases heq
        obtain ⟨g, f'', hg, hf'', rfl⟩ := ihInside h'
        exact .group hg hf''
      · intro f rest h
        rw [fallback?, if_pos rfl, if_pos rfl] at h
        cases h
    · by_cases hclose : c = ')'
      · subst hclose
        constructor
        · intro f rest h
          rw [fallback?, if_neg hopen, if_pos rfl, if_neg Bool.false_ne_true] at h
          cases h
          exact .nil
        · intro f rest h
          rw [fallback?, if_neg hopen, if_pos rfl, if_pos rfl, Option.map_eq_some_iff] at h
          obtain ⟨⟨f', rest'⟩, h', heq⟩ := h
          cases heq
          exact ⟨[], f', by simp, ihOutside h', rfl⟩
      · have hc : IsPlain c := ⟨hopen, hclose⟩
        constructor
        · intro f rest h
          rw [fallback?_plain hc, Option.map_eq_some_iff] at h
          obtain ⟨⟨f', rest'⟩, h', heq⟩ := h
          cases heq
          exact .plain hc (ihOutside h')
        · intro f rest h
          rw [fallback?_plain hc, Option.map_eq_some_iff] at h
          obtain ⟨⟨f', rest'⟩, h', heq⟩ := h
          cases heq
          obtain ⟨g, f'', hg, hf'', rfl⟩ := ihInside h'
          exact ⟨c :: g, f'', List.forall_mem_cons.mpr ⟨hc, hg⟩, hf'', rfl⟩

/-! ### References -/

/-- Name characters are told apart from everything that may follow a name. -/
structure IsNameClass (isName : Char → Bool) : Prop where
  /-- White space is not in a name. -/
  not_blank : ∀ c, isName c → isBlank c = false
  /-- A comma is not in a name. -/
  not_comma : isName ',' = false
  /-- A name has no parentheses. -/
  plain : ∀ c, isName c → IsPlain c

/-- The ASCII letters and digits, the underscore and the dash are a class of name characters. -/
lemma isNameClass_ascii : IsNameClass isAsciiNameChar where
  not_blank := by
    intro c hc
    simp only [isAsciiNameChar, isAsciiAlnum, Bool.or_eq_true, Bool.and_eq_true,
      decide_eq_true_eq, beq_iff_eq] at hc
    rcases hc with (hc | hc) | hc
    · simp only [isBlank, Bool.or_eq_false_iff, Bool.and_eq_false_iff, decide_eq_false_iff_not,
        beq_eq_false_iff_ne]
      omega
    · subst hc
      decide
    · subst hc
      decide
  not_comma := by decide
  plain := by
    intro c hc
    refine ⟨?_, ?_⟩ <;> rintro rfl <;> revert hc <;> decide

/-- The letters and numbers of all scripts, the underscore and the dash are a class of name
characters. -/
lemma isNameClass_word : IsNameClass isNameChar where
  not_blank := by
    intro c hc
    rw [Bool.eq_false_iff]
    intro hblank
    rw [isNameChar, Text.not_isWordChar_of_blank hblank, Bool.false_or, beq_iff_eq] at hc
    subst hc
    exact absurd hblank (by decide)
  not_comma := by decide
  plain := by
    intro c hc
    refine ⟨?_, ?_⟩ <;> rintro rfl <;> revert hc <;> decide

/-- White space does not stand in a name. -/
lemma not_isNameChar_of_blank (hc : isBlank c) : isNameChar c = false := by
  rw [Bool.eq_false_iff]
  intro hname
  rw [isNameClass_word.not_blank c hname] at hc
  cases hc

namespace Reference

/-- The parts of a reference are what the grammar asks for. -/
structure IsWellFormed (isName : Char → Bool) (r : Reference) : Prop where
  /-- White space stands before the name. -/
  lead_blank : ∀ c ∈ r.lead, isBlank c
  /-- The name is two dashes and at least one name character. -/
  name_eq : ∃ ns, ns ≠ [] ∧ (∀ c ∈ ns, isName c) ∧ r.name = '-' :: '-' :: ns
  /-- White space stands behind the name. -/
  gap_blank : ∀ c ∈ r.gap, isBlank c
  /-- The fallback has parentheses at most one level deep. -/
  fallback_grammar : ∀ f ∈ r.fallback, FallbackText f

/-- What stands between the white space behind the name and the rest of the text. -/
def tail (r : Reference) : Text :=
  (r.fallback.elim [] fun f => ',' :: f) ++ [')']

/-- The opening, character by character. -/
lemma opening_eq : opening = ['v', 'a', 'r', '('] := by decide

/-- A reference in front of a text is its opening, its parts and the text. -/
lemma text_append (r : Reference) (rest : Text) :
    r.text ++ rest = opening ++ (r.lead ++ (r.name ++ (r.gap ++ (r.tail ++ rest)))) := by
  simp only [text, tail, List.append_assoc]

end Reference

/-- A name is two dashes and all the name characters behind them. -/
lemma referenceName?_eq_some_iff {name : Text} :
    referenceName? isName t = some (name, u)
      ↔ ∃ ns, ns ≠ [] ∧ (∀ c ∈ ns, isName c) ∧ (∀ c ∈ u.head?, isName c = false) ∧
          name = '-' :: '-' :: ns ∧ t = name ++ u := by
  constructor
  · intro h
    have happend := referenceName?_append h
    unfold referenceName? at h
    split at h
    · cases h
    · next v hv =>
      split at h
      · cases h
      · next hne =>
        cases h
        refine ⟨v.takeWhile isName, ?_, ?_, ?_, rfl, happend⟩
        · simpa using hne
        · exact fun c hc => List.mem_takeWhile_imp hc
        · intro c hc
          have hhead := List.head?_dropWhile_not isName v
          rwa [Option.mem_def.mp hc] at hhead
  · rintro ⟨ns, hne, hns, hu, rfl, rfl⟩
    have hafter : Text.after? "--".toList (('-' :: '-' :: ns) ++ u) = some (ns ++ u) :=
      Text.after?_eq_some_iff.mpr rfl
    obtain ⟨htake, hdrop⟩ := Text.span_append hns hu
    rw [referenceName?, hafter]
    simp only [htake, hdrop]
    rw [if_neg (by simpa using hne)]

/-- A tail is a closing parenthesis, with a comma and a fallback before it or without. -/
lemma referenceTail?_eq_some_iff {f : Option Text} :
    referenceTail? t = some (f, rest)
      ↔ (∀ x ∈ f, FallbackText x) ∧ t = (f.elim [] fun x => ',' :: x) ++ ')' :: rest := by
  constructor
  · intro h
    refine ⟨?_, referenceTail?_append h⟩
    unfold referenceTail? at h
    split at h
    · cases h
      simp
    · rw [Option.map_eq_some_iff] at h
      obtain ⟨⟨x, rest'⟩, h', heq⟩ := h
      cases heq
      rintro _ ⟨⟩
      exact fallbackText_of_fallback?.1 h'
    · cases h
  · rintro ⟨hf, rfl⟩
    cases f with
    | none => rfl
    | some x =>
      have hx := (hf x rfl).fallback?_eq rest
      simp only [Option.elim, List.cons_append, referenceTail?, hx, Option.map_some]

/-- Reading accepts exactly the well formed references, and gives the parts that make up the
text. -/
theorem reference?_eq_some_iff (hclass : IsNameClass isName) :
    reference? isName t = some (r, rest) ↔ r.IsWellFormed isName ∧ t = r.text ++ rest := by
  constructor
  · intro h
    refine ⟨?_, reference?_append h⟩
    simp only [reference?, Option.bind_eq_bind, Option.bind_eq_some_iff, Prod.exists,
      Option.pure_def, Option.some.injEq, Prod.mk.injEq] at h
    obtain ⟨u, -, name, v, hname, f, rest', htail, rfl, rfl⟩ := h
    obtain ⟨ns, hne, hns, -, hname_eq, -⟩ := referenceName?_eq_some_iff.mp hname
    refine ⟨?_, ⟨ns, hne, hns, hname_eq⟩, ?_, (referenceTail?_eq_some_iff.mp htail).1⟩
    · exact fun c hc => List.mem_takeWhile_imp hc
    · exact fun c hc => List.mem_takeWhile_imp hc
  · rintro ⟨hr, rfl⟩
    obtain ⟨ns, hne, hns, hname⟩ := hr.name_eq
    -- The tail begins with a comma or a parenthesis, which ends the gap and, without a gap, the
    -- name.
    have htail : ∀ c ∈ (r.tail ++ rest).head?, isBlank c = false ∧ isName c = false := by
      have hclose : isName ')' = false := by
        rw [← Bool.not_eq_true]
        exact fun h => (hclass.plain _ h).2 rfl
      rcases hf : r.fallback with - | f
      · simpa [Reference.tail, hf, hclose] using (by decide : isBlank ')' = false)
      · simpa [Reference.tail, hf, hclass.not_comma] using (by decide : isBlank ',' = false)
    have hgap : ∀ c ∈ (r.gap ++ (r.tail ++ rest)).head?, isName c = false := by
      cases hg : r.gap with
      | nil => exact fun c hc => (htail c hc).2
      | cons b gap =>
        rintro c ⟨⟩
        have hblank := hr.gap_blank b (hg ▸ List.mem_cons_self)
        rw [← Bool.not_eq_true]
        intro hb
        rw [hclass.not_blank b hb] at hblank
        cases hblank
    have hnameBlank : ∀ c ∈ (r.name ++ (r.gap ++ (r.tail ++ rest))).head?, isBlank c = false := by
      rw [hname]
      rintro c ⟨⟩
      decide
    obtain ⟨hlead, hleadRest⟩ := Text.span_append hr.lead_blank hnameBlank
    obtain ⟨hgapTake, hgapRest⟩ := Text.span_append hr.gap_blank fun c hc => (htail c hc).1
    have hreadName := referenceName?_eq_some_iff.mpr ⟨ns, hne, hns, hgap, hname, rfl⟩
    have hreadTail : referenceTail? (r.tail ++ rest) = some (r.fallback, rest) :=
      referenceTail?_eq_some_iff.mpr ⟨hr.fallback_grammar, by simp [Reference.tail]⟩
    have hafter := Text.after?_eq_some_iff.mpr (Reference.text_append r rest)
    simp [reference?, Text.stripLeft, hafter, hleadRest, hreadName, hgapRest, hreadTail, hlead,
      hgapTake]

/-! ### Parentheses -/

/-- What a character adds to the depth. -/
def weight (c : Char) : Int :=
  if c = '(' then 1 else if c = ')' then -1 else 0

/-- How many more parentheses a text opens than it closes. -/
def depth : Text → Int
  | [] => 0
  | c :: cs => weight c + depth cs

/-- The depths of two texts add up. -/
lemma depth_append (t u : Text) : depth (t ++ u) = depth t + depth u := by
  induction t with
  | nil => exact (Int.zero_add _).symm
  | cons c t ih => rw [List.cons_append, depth, depth, ih, Int.add_assoc]

/-- Plain characters have no depth. -/
lemma depth_of_plain (ht : ∀ c ∈ t, IsPlain c) : depth t = 0 := by
  induction t with
  | nil => rfl
  | cons c t ih =>
    rw [List.forall_mem_cons] at ht
    have hc : weight c = 0 := by rw [weight, if_neg ht.1.1, if_neg ht.1.2]
    rw [depth, hc, ih ht.2, Int.add_zero]

/-- A balanced text closes what it opens, and nothing else. -/
structure Balanced (t : Text) : Prop where
  /-- As much is closed as is opened. -/
  depth_eq : depth t = 0
  /-- No prefix closes what it did not open. -/
  depth_nonneg : ∀ p s, t = p ++ s → 0 ≤ depth p

/-- Whether a text is balanced is decided by its prefixes. -/
lemma balanced_iff : Balanced t ↔ depth t = 0 ∧ ∀ p ∈ t.inits, 0 ≤ depth p := by
  constructor
  · intro h
    refine ⟨h.depth_eq, fun p hp => ?_⟩
    obtain ⟨s, hs⟩ := (List.mem_inits p t).mp hp
    exact h.depth_nonneg p s hs.symm
  · rintro ⟨heq, hnonneg⟩
    exact ⟨heq, fun p s hs => hnonneg p ((List.mem_inits p t).mpr ⟨s, hs.symm⟩)⟩

instance (t : Text) : Decidable (Balanced t) :=
  decidable_of_iff _ balanced_iff.symm

/-- Plain characters are balanced. -/
lemma balanced_of_plain (ht : ∀ c ∈ t, IsPlain c) : Balanced t where
  depth_eq := depth_of_plain ht
  depth_nonneg := by
    rintro p s rfl
    exact Int.le_of_eq (depth_of_plain fun c hc => ht c (List.mem_append_left s hc)).symm

/-- Balanced texts one behind the other are balanced. -/
lemma Balanced.append (ht : Balanced t) (hu : Balanced u) : Balanced (t ++ u) where
  depth_eq := by rw [depth_append, ht.depth_eq, hu.depth_eq, Int.add_zero]
  depth_nonneg := by
    intro p s h
    rcases List.append_eq_append_iff.mp h with ⟨q, rfl, hq⟩ | ⟨q, hq, -⟩
    · rw [depth_append, ht.depth_eq, Int.zero_add]
      exact hu.depth_nonneg q s hq
    · exact ht.depth_nonneg p q hq

/-- A balanced text in parentheses is balanced. -/
lemma Balanced.wrap (ht : Balanced t) : Balanced ('(' :: (t ++ [')'])) where
  depth_eq := by
    rw [depth, depth_append, ht.depth_eq]
    decide
  depth_nonneg := by
    intro p s h
    cases p with
    | nil => exact Int.le_refl 0
    | cons c p =>
      obtain ⟨rfl, hrest⟩ := List.cons.inj h
      have hopen : weight '(' = 1 := by decide
      rw [depth, hopen]
      rcases List.append_eq_append_iff.mp hrest with ⟨q, rfl, hq⟩ | ⟨q, hq, -⟩
      · -- What lies behind `t` is at most the closing parenthesis.
        have hq' : -1 ≤ depth q := by
          rcases List.append_eq_singleton_iff.mp hq.symm with ⟨rfl, -⟩ | ⟨rfl, -⟩ <;> decide
        rw [depth_append, ht.depth_eq]
        omega
      · have hp := ht.depth_nonneg p q hq
        omega

/-- A suffix of a balanced text closes at least as much as it opens. -/
lemma Balanced.depth_nonpos_of_suffix {p : Text} (h : Balanced (p ++ s)) : depth s ≤ 0 := by
  have htotal := h.depth_eq
  have hp := h.depth_nonneg p s rfl
  rw [depth_append] at htotal
  omega

/-- A fallback is balanced. -/
lemma FallbackText.balanced (hf : FallbackText f) : Balanced f := by
  induction hf with
  | nil => exact balanced_of_plain (by simp)
  | @plain c f hc _ ih =>
    have hfirst : Balanced [c] := balanced_of_plain (by simpa using hc)
    exact hfirst.append ih
  | @group g f hg _ ih =>
    have hgroup := (balanced_of_plain hg).wrap.append ih
    rwa [List.cons_append, List.append_assoc] at hgroup

/-- No parenthesis is opened inside another one. -/
def IsFlat (t : Text) : Prop :=
  ∀ p s, t = p ++ s → depth p ≤ 1

/-- Whether a text is flat is decided by its prefixes. -/
lemma isFlat_iff : IsFlat t ↔ ∀ p ∈ t.inits, depth p ≤ 1 := by
  simp only [IsFlat, List.mem_inits, List.IsPrefix, eq_comm, forall_exists_index]

instance (t : Text) : Decidable (IsFlat t) :=
  decidable_of_iff _ isFlat_iff.symm

/-- A fallback is flat. -/
lemma FallbackText.isFlat (hf : FallbackText f) : IsFlat f := by
  induction hf with
  | nil =>
    intro p s h
    rw [(List.append_eq_nil_iff.mp h.symm).1]
    decide
  | @plain c f hc _ ih =>
    intro p s h
    cases p with
    | nil => decide
    | cons d p =>
      obtain ⟨rfl, hrest⟩ := List.cons.inj h
      have hweight : weight c = 0 := by rw [weight, if_neg hc.1, if_neg hc.2]
      rw [depth, hweight, Int.zero_add]
      exact ih p s hrest
  | @group g f hg _ ih =>
    intro p s h
    cases p with
    | nil => decide
    | cons d p =>
      obtain ⟨rfl, hrest⟩ := List.cons.inj h
      have hopen : weight '(' = 1 := by decide
      rw [depth, hopen]
      rcases List.append_eq_append_iff.mp hrest with ⟨q, rfl, hq⟩ | ⟨q, rfl, -⟩
      · rw [depth_append, depth_of_plain hg]
        cases q with
        | nil => decide
        | cons e q =>
          -- The part reaches behind the group, which is closed again.
          obtain ⟨rfl, hbehind⟩ := List.cons.inj hq
          have hclose : weight ')' = -1 := by decide
          have hq := ih q s hbehind
          rw [depth, hclose]
          omega
      · rw [depth_of_plain fun c hc => hg c (List.mem_append_left q hc)]
        decide

/-- A text whose parentheses are closed, and not opened inside others, is read up to the parenthesis
behind it; one of them may be open already. -/
lemma fallback?_of_flat {inGroup : Bool} (rest : Text)
    (hnonneg : ∀ p s, t = p ++ s → 0 ≤ (if inGroup then 1 else 0) + depth p)
    (hflat : ∀ p s, t = p ++ s → (if inGroup then 1 else 0) + depth p ≤ 1)
    (hclosed : (if inGroup then 1 else 0) + depth t = 0) :
    fallback? inGroup (t ++ ')' :: rest) = some (t, rest) := by
  induction t generalizing inGroup with
  | nil =>
    cases inGroup with
    | false => simp [fallback?]
    | true => exact absurd hclosed (by decide)
  | cons c t ih =>
    have hfirst := hnonneg [c] t rfl
    have hfirstFlat := hflat [c] t rfl
    -- What holds of the text behind its first character, with the parentheses open by then.
    have hrest : ∀ later : Bool,
        ((if later then 1 else 0 : Int) = (if inGroup then 1 else 0) + weight c) →
          fallback? later (t ++ ')' :: rest) = some (t, rest) := by
      intro later hlater
      refine ih (fun p s h => ?_) (fun p s h => ?_) ?_
      · have hp := hnonneg (c :: p) s (congrArg (c :: ·) h)
        rw [depth] at hp
        omega
      · have hp := hflat (c :: p) s (congrArg (c :: ·) h)
        rw [depth] at hp
        omega
      · rw [depth] at hclosed
        omega
    rw [depth, depth] at hfirst hfirstFlat
    by_cases hopen : c = '('
    · subst hopen
      have hweight : weight '(' = 1 := by decide
      cases inGroup with
      | true => exact absurd hfirstFlat (by decide)
      | false =>
        rw [List.cons_append, fallback?, if_pos rfl, if_neg Bool.false_ne_true]
        dsimp only
        rw [hrest true (by rw [hweight]; rfl), Option.map_some]
    · by_cases hclose : c = ')'
      · subst hclose
        have hweight : weight ')' = -1 := by decide
        cases inGroup with
        | false => exact absurd hfirst (by decide)
        | true =>
          rw [List.cons_append, fallback?, if_neg hopen, if_pos rfl, if_pos rfl]
          dsimp only
          rw [hrest false (by rw [hweight]; rfl), Option.map_some]
      · have hweight : weight c = 0 := by rw [weight, if_neg hopen, if_neg hclose]
        rw [List.cons_append, fallback?_plain ⟨hopen, hclose⟩,
          hrest inGroup (by rw [hweight, Int.add_zero]), Option.map_some]

/-- A fallback is a balanced text with parentheses at most one level deep. -/
theorem fallbackText_iff : FallbackText t ↔ Balanced t ∧ IsFlat t := by
  constructor
  · intro h
    exact ⟨h.balanced, h.isFlat⟩
  · rintro ⟨hbalanced, hflat⟩
    refine fallbackText_of_fallback?.1 (fallback?_of_flat [] (fun p s h => ?_) (fun p s h => ?_) ?_)
    · simpa using hbalanced.depth_nonneg p s h
    · simpa using hflat p s h
    · simpa using hbalanced.depth_eq

/-- A reference closes the call that it opens at its end. -/
lemma Reference.IsWellFormed.balanced_text (hclass : IsNameClass isName)
    (hr : r.IsWellFormed isName) : Balanced r.text := by
  obtain ⟨ns, -, hns, hname⟩ := hr.name_eq
  have hblank : ∀ c, isBlank c → IsPlain c := by
    intro c hc
    refine ⟨?_, ?_⟩ <;> rintro rfl <;> revert hc <;> decide
  have hdash : IsPlain '-' := by
    refine ⟨?_, ?_⟩ <;> decide
  have hlead := balanced_of_plain fun c hc => hblank c (hr.lead_blank c hc)
  have hgap := balanced_of_plain fun c hc => hblank c (hr.gap_blank c hc)
  have hnamed : Balanced r.name := by
    rw [hname]
    refine balanced_of_plain ?_
    simpa [hdash] using fun c hc => hclass.plain c (hns c hc)
  have hfallback : Balanced (r.fallback.elim [] fun f => ',' :: f) := by
    cases hf : r.fallback with
    | none => exact balanced_of_plain (by simp)
    | some f =>
      have hcomma : Balanced [','] := balanced_of_plain (by simp [IsPlain])
      exact hcomma.append (hr.fallback_grammar f hf).balanced
  have hcall : Balanced "var".toList := balanced_of_plain (by simp [IsPlain])
  have hall := hcall.append (((hlead.append hnamed).append hgap).append hfallback).wrap
  simpa [text, opening] using hall

/-- What follows a text does not change the reference at its front when no reference goes on into
what follows. -/
lemma map_fst_reference?_append (hclass : IsNameClass isName)
    (h : ∀ (r : Reference) (q rest : Text), r.IsWellFormed isName → r.text = s ++ q →
      u = q ++ rest → q = []) :
    (reference? isName (s ++ u)).map Prod.fst = (reference? isName s).map Prod.fst := by
  apply Option.ext
  intro r
  simp only [Option.map_eq_some_iff, Prod.exists, exists_and_right, exists_eq_right,
    reference?_eq_some_iff hclass]
  constructor
  · rintro ⟨rest, hr, heq⟩
    rcases List.append_eq_append_iff.mp heq with ⟨q, hq, hrest⟩ | ⟨q, hq, -⟩
    · have hnil := h r q rest hr hq hrest
      rw [hnil, List.append_nil] at hq
      exact ⟨[], hr, by rw [hq, List.append_nil]⟩
    · exact ⟨q, hr, hq⟩
  · rintro ⟨rest, hr, rfl⟩
    exact ⟨rest ++ u, hr, List.append_assoc ..⟩

/-- A reference that begins in a balanced text, which a parenthesis follows, ends in that text. -/
theorem map_fst_reference?_append_close (hclass : IsNameClass isName) {p : Text}
    (h : Balanced (p ++ s)) (rest : Text) :
    (reference? isName (s ++ ')' :: rest)).map Prod.fst = (reference? isName s).map Prod.fst := by
  refine map_fst_reference?_append hclass fun r q u hr hq hclose => ?_
  cases q with
  | nil => rfl
  | cons c q =>
    -- The reference would go on with the parenthesis behind `s`, where its depth is negative.
    obtain ⟨rfl, -⟩ := List.cons.inj hclose
    have hprefix := (hr.balanced_text hclass).depth_nonneg (s ++ [')']) q (by simp [hq])
    have hsuffix := h.depth_nonpos_of_suffix
    have hone : depth [')'] = -1 := by decide
    rw [depth_append, hone] at hprefix
    omega

/-- What has no closing parenthesis has no part in a reference that begins before it. -/
lemma map_fst_reference?_append_of_not_mem (hclass : IsNameClass isName) (hu : ')' ∉ u) :
    (reference? isName (s ++ u)).map Prod.fst = (reference? isName s).map Prod.fst := by
  refine map_fst_reference?_append hclass fun r q rest _ hq hrest => ?_
  -- A reference that went on behind `s` would have its last character there.
  rcases List.eq_nil_or_concat q with rfl | ⟨q, c, rfl⟩
  · rfl
  · have hlast : ')' = c := by
      have hends := congrArg List.getLast? hq
      simpa [Reference.text] using hends
    rw [hlast, hrest] at hu
    exact absurd (by simp) hu

end Style

end DesignTokens
