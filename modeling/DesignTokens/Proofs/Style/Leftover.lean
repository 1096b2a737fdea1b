import DesignTokens.Proofs.Style.Resolution
import DesignTokens.Proofs.Text.Words

/-!
# References that resolution leaves behind

Resolution reads the references of a value, then those of what they stand for, and so on.  Where it
goes deep enough, all that it reads and whose target is defined is replaced.  Yet a reference to a
defined variable may be left, that was not there to be read: it is put together from characters
that stand between the references of the texts that are read, in their `runs`.  Each character
that is left comes from such a run, and what is left next to it is the rest of that run
(`Expands.exists_isRun`).

So nothing of the kind is left if no run has an opening that may begin such a reference, and if
openings cannot be put together from the ends of runs (`resolved_names_no_defined`).  An opening
stands in a run where its call has too many parentheses to be read as a reference.  Without these
conditions, or without enough depth, references to defined variables are left even though no
variable depends on itself (`resolved_names_defined`).
-/

namespace DesignTokens

namespace Style

variable {vs : Variables} {n : Nat} {c : Char} {t u w x y before after : Text} {q r : Reference}
  {ss ls rs as bs : List Segment}

/-! ### References in a text -/

/-- A reference whose target is defined stands somewhere in the text. -/
def NamesDefined (vs : Variables) (t : Text) : Prop :=
  ∃ (before : Text) (r : Reference) (after : Text), r.IsWellFormed isNameChar ∧
    (vs.get? r.name).isSome ∧ t = before ++ r.text ++ after

/-- Does a reference with a defined target begin the text? -/
def beginsDefined (vs : Variables) (t : Text) : Bool :=
  (reference? isNameChar t).any fun (r, _) => (vs.get? r.name).isSome

/-- Look for a reference with a defined target at each position. -/
def namesDefined (vs : Variables) : Text → Bool
  | [] => false
  | c :: cs => beginsDefined vs (c :: cs) || namesDefined vs cs

/-- Reading decides whether a reference with a defined target begins a text. -/
lemma beginsDefined_iff : beginsDefined vs t = true
    ↔ ∃ (r : Reference) (after : Text), r.IsWellFormed isNameChar ∧ (vs.get? r.name).isSome ∧
        t = r.text ++ after := by
  rw [beginsDefined, Option.any_eq_true]
  simp only [Prod.exists, reference?_eq_some_iff isNameClass_word]
  constructor
  · rintro ⟨r, after, ⟨hr, ht⟩, hsome⟩
    exact ⟨r, after, hr, hsome, ht⟩
  · rintro ⟨r, after, hr, hsome, ht⟩
    exact ⟨r, after, ⟨hr, ht⟩, hsome⟩

/-- The search decides whether a reference with a defined target stands in a text. -/
lemma namesDefined_iff : namesDefined vs t = true ↔ NamesDefined vs t := by
  induction t with
  | nil =>
    refine ⟨fun h => (nomatch h), ?_⟩
    rintro ⟨before, r, after, -, -, heq⟩
    simp [Reference.text] at heq
  | cons c cs ih =>
    rw [namesDefined, Bool.or_eq_true, ih, beginsDefined_iff]
    constructor
    · rintro (⟨r, after, hr, hsome, heq⟩ | ⟨before, r, after, hr, hsome, rfl⟩)
      · exact ⟨[], r, after, hr, hsome, heq⟩
      · exact ⟨c :: before, r, after, hr, hsome, rfl⟩
    · rintro ⟨before, r, after, hr, hsome, heq⟩
      cases before with
      | nil => exact Or.inl ⟨r, after, hr, hsome, heq⟩
      | cons b before => exact Or.inr ⟨before, r, after, hr, hsome, (List.cons.inj heq).2⟩

instance (vs : Variables) (t : Text) : Decidable (NamesDefined vs t) :=
  decidable_of_iff _ namesDefined_iff

/-! ### What is left of segments -/

/-- Plain segments make up their characters. -/
lemma textOf_map_plain (w : Text) : textOf (w.map .plain) = w := by
  induction w with
  | nil => rfl
  | cons c w ih => exact congrArg (c :: ·) ih

/-- A character of a text belongs to one of its segments. -/
lemma exists_segment_of_textOf (h : textOf ss = x ++ c :: y) :
    ∃ as s bs a b, ss = as ++ s :: bs ∧ s.text = a ++ c :: b ∧ x = textOf as ++ a := by
  induction ss generalizing x with
  | nil => cases x <;> cases h
  | cons s ss ih =>
    rw [textOf, List.flatMap_cons] at h
    rcases Text.append_eq_append_cons h with ⟨front, rfl, hrest⟩ | ⟨b, hs, -⟩
    · obtain ⟨as, s', bs, a, b, rfl, hs, rfl⟩ := ih hrest
      exact ⟨s :: as, s', bs, a, b, rfl, hs, (List.append_assoc ..).symm⟩
    · exact ⟨[], s, ss, x, b, rfl, hs, rfl⟩

/-- Both parts of a list of segments are expanded on their own. -/
lemma Expands.split (h : Expands vs (as ++ bs) ls) :
    ∃ as' bs', ls = as' ++ bs' ∧ Expands vs as as' ∧ Expands vs bs bs' := by
  induction as generalizing ls with
  | nil => exact ⟨[], ls, rfl, .nil, h⟩
  | cons s as ih =>
    rw [List.cons_append] at h
    cases h with
    | plain c h =>
      obtain ⟨as', bs', rfl, has, hbs⟩ := ih h
      exact ⟨_, bs', rfl, has.plain c, hbs⟩
    | keep hr h =>
      obtain ⟨as', bs', rfl, has, hbs⟩ := ih h
      exact ⟨_, bs', rfl, has.keep hr, hbs⟩
    | replace hr ht h =>
      obtain ⟨as', bs', rfl, has, hbs⟩ := ih h
      exact ⟨_, bs', (List.append_assoc ..).symm, .replace hr ht has, hbs⟩

/-- What is left of two lists of segments is left of both together. -/
lemma Expands.append {as' bs' : List Segment} (has : Expands vs as as') (hbs : Expands vs bs bs') :
    Expands vs (as ++ bs) (as' ++ bs') := by
  induction has with
  | nil => exact hbs
  | plain c _ ih => exact ih.plain c
  | keep hr _ ih => exact ih.keep hr
  | replace hr ht _ _ ih =>
    rw [List.append_assoc]
    exact .replace hr ht ih

/-- Plain characters at the front are left there. -/
lemma Expands.prefix_of_plain (h : Expands vs bs ls) (hw : w.map .plain <+: bs) :
    w <+: textOf ls := by
  obtain ⟨rest, rfl⟩ := hw
  obtain ⟨front, rest', rfl, hfront, -⟩ := h.split
  have hself : Expands vs (w.map .plain) (w.map .plain) := expands_self (by simp)
  rw [hfront.unique hself, textOf_append, textOf_map_plain]
  exact List.prefix_append _ _

/-- Plain characters at the end are left there. -/
lemma Expands.suffix_of_plain (h : Expands vs as ls) (hw : w.map .plain <:+ as) :
    w <:+ textOf ls := by
  obtain ⟨front, rfl⟩ := hw
  obtain ⟨front', end', rfl, -, hend⟩ := h.split
  have hself : Expands vs (w.map .plain) (w.map .plain) := expands_self (by simp)
  rw [hend.unique hself, textOf_append, textOf_map_plain]
  exact List.suffix_append _ _

/-- Only references of texts are left, and they stand for nothing. -/
lemma Expands.of_call (h : Expands vs ss ls) (hr : .call r ∈ ls) :
    next? vs r = none ∧ (.call r ∈ ss ∨ ∃ t, .call r ∈ segments isNameChar t) := by
  induction h with
  | nil => cases hr
  | plain c _ ih =>
    rcases List.mem_cons.mp hr with heq | hr
    · cases heq
    · exact (ih hr).imp_right (Or.imp_left (List.mem_cons_of_mem _))
  | keep hnone _ ih =>
    rcases List.mem_cons.mp hr with heq | hr
    · cases heq
      exact ⟨hnone, Or.inl List.mem_cons_self⟩
    · exact (ih hr).imp_right (Or.imp_left (List.mem_cons_of_mem _))
  | @replace r' t ss as bs _ _ _ iht ih =>
    rcases List.mem_append.mp hr with hr | hr
    · exact (iht hr).imp_right fun hmem => Or.inr (hmem.elim (fun hmem => ⟨t, hmem⟩) id)
    · exact (ih hr).imp_right (Or.imp_left (List.mem_cons_of_mem _))

/-! ### Where characters come from -/

/-- A plain character stands among segments, or in a text that is reached from them, with so much
left before it and behind it. -/
inductive Origin (vs : Variables) (c : Char) :
    List Segment → List Segment → List Segment → Prop
  /-- It is one of the segments. -/
  | here {as bs left right : List Segment} (has : Expands vs as left)
      (hbs : Expands vs bs right) : Origin vs c (as ++ .plain c :: bs) left right
  /-- It stands in what one of the references stands for. -/
  | inside {as bs front back left right : List Segment} {r : Reference} {u : Text}
      (has : Expands vs as front) (hr : next? vs r = some u)
      (hu : Origin vs c (segments isNameChar u) left right) (hbs : Expands vs bs back) :
      Origin vs c (as ++ .call r :: bs) (front ++ left) (right ++ back)

/-- More segments in front leave more in front. -/
lemma Origin.append_left (h : Origin vs c ss ls rs) (has : Expands vs as bs) :
    Origin vs c (as ++ ss) (bs ++ ls) rs := by
  cases h with
  | here hfront hback =>
    rw [← List.append_assoc]
    exact .here (has.append hfront) hback
  | inside hfront hr hu hback =>
    rw [← List.append_assoc, ← List.append_assoc]
    exact .inside (has.append hfront) hr hu hback

/-- Every plain character that is left has an origin. -/
lemma Expands.origin (h : Expands vs ss ls) (hls : ls = as ++ .plain c :: bs) :
    Origin vs c ss as bs := by
  induction h generalizing as bs with
  | nil => cases as <;> cases hls
  | plain d h ih =>
    rcases List.cons_eq_append_iff.mp hls with ⟨rfl, heq⟩ | ⟨as, rfl, htail⟩
    · cases heq
      exact .here .nil h
    · exact (ih htail).append_left (Expands.nil.plain d)
  | keep hr _ ih =>
    rcases List.cons_eq_append_iff.mp hls with ⟨rfl, heq⟩ | ⟨as, rfl, htail⟩
    · cases heq
    · exact (ih htail).append_left (Expands.nil.keep hr)
  | @replace r u ss front rest hr hu hrest ihu ih =>
    have hfront : Expands vs [.call r] front := by
      have hone := Expands.replace hr hu .nil
      rwa [List.append_nil] at hone
    rcases Text.append_eq_append_cons hls with ⟨as, rfl, htail⟩ | ⟨bs, rfl, rfl⟩
    · exact (ih htail).append_left hfront
    · exact .inside .nil hr (ihu rfl) hrest

/-- An origin is a place in a text that can be reached. -/
lemma Origin.exists_chain (h : Origin vs c (segments isNameChar t) ls rs) :
    ∃ n u as bs left right, Chain (steps vs) n t u ∧
      segments isNameChar u = as ++ .plain c :: bs ∧ Expands vs as left ∧ Expands vs bs right ∧
        left <:+ ls ∧ right <+: rs := by
  generalize hss : segments isNameChar t = ss at h
  induction h generalizing t with
  | here has hbs =>
    exact ⟨0, t, _, _, _, _, .nil t, hss, has, hbs, List.suffix_rfl, List.prefix_rfl⟩
  | @inside as bs front back ls rs r u _ hr _ _ ih =>
    obtain ⟨n, v, as', bs', left, right, hc, hv, hleft, hright, hsuffix, hprefix⟩ := ih rfl
    have hstep : u ∈ steps vs t := mem_steps_iff.mpr ⟨r, by rw [hss]; simp, hr⟩
    exact ⟨n + 1, v, as', bs', left, right, hc.cons hstep, hv, hleft, hright,
      hsuffix.trans (List.suffix_append front ls), hprefix.trans (List.prefix_append rs back)⟩

/-! ### Runs -/

/-- The texts between references, in their order; the first one goes on from `run`. -/
def runsFrom (run : Text) : List Segment → List Text
  | [] => [run]
  | .plain c :: ss => runsFrom (run ++ [c]) ss
  | .call _ :: ss => run :: runsFrom [] ss

/-- The texts before, between and behind the references of a text. -/
def runs (t : Text) : List Text :=
  runsFrom [] (segments isNameChar t)

/-- The text is a run of a text that is reached. -/
def IsRun (vs : Variables) (t run : Text) : Prop :=
  ∃ n u, Chain (steps vs) n t u ∧ run ∈ runs u

/-- Where chains are bounded, only so many runs are reached. -/
lemma IsRun.exists_mem_reached {run : Text} (hshallow : IsShallow (steps vs) n t)
    (h : IsRun vs t run) : ∃ u ∈ reached (steps vs) n t, run ∈ runs u := by
  obtain ⟨k, u, hc, hrun⟩ := h
  exact ⟨u, hc.mem_reached (hshallow k u hc), hrun⟩

/-- The first run goes on with plain characters. -/
lemma exists_first_run (run : Text) (ss : List Segment) :
    ∃ q : Text, run ++ q ∈ runsFrom run ss ∧ q.map .plain <+: ss := by
  induction ss generalizing run with
  | nil => exact ⟨[], by simp [runsFrom], List.prefix_rfl⟩
  | cons s ss ih =>
    cases s with
    | plain c =>
      obtain ⟨q, hq, hplain⟩ := ih (run ++ [c])
      refine ⟨c :: q, ?_, (List.prefix_cons_inj _).mpr hplain⟩
      rwa [List.append_assoc] at hq
    | call r => exact ⟨[], by simp [runsFrom], List.nil_prefix⟩

/-- A plain character belongs to a run; the rest of the run are the plain characters next to it. -/
lemma exists_run (run : Text) (as bs : List Segment) (c : Char) :
    ∃ p q : Text, p ++ c :: q ∈ runsFrom run (as ++ .plain c :: bs) ∧
      p.map .plain <:+ run.map .plain ++ as ∧ q.map .plain <+: bs := by
  induction as generalizing run with
  | nil =>
    obtain ⟨q, hq, hplain⟩ := exists_first_run (run ++ [c]) bs
    rw [List.append_assoc] at hq
    exact ⟨run, q, hq, by rw [List.append_nil], hplain⟩
  | cons s as ih =>
    cases s with
    | plain d =>
      obtain ⟨p, q, hrun, hp, hq⟩ := ih (run ++ [d])
      refine ⟨p, q, hrun, ?_, hq⟩
      rwa [List.map_append, List.append_assoc] at hp
    | call r =>
      obtain ⟨p, q, hrun, hp, hq⟩ := ih []
      refine ⟨p, q, List.mem_cons_of_mem _ hrun, hp.trans ?_, hq⟩
      exact (List.suffix_cons _ as).trans (List.suffix_append _ _)

/-- A plain character that is left belongs to a run of a text that is reached, and the rest of that
run is left next to it. -/
lemma Expands.exists_isRun (h : Expands vs (segments isNameChar t) (as ++ .plain c :: bs)) :
    ∃ p q : Text, IsRun vs t (p ++ c :: q) ∧ p <:+ textOf as ∧ q <+: textOf bs := by
  obtain ⟨n, u, as', bs', left, right, hc, hu, hleft, hright, hsuffix, hprefix⟩ :=
    (h.origin rfl).exists_chain
  obtain ⟨p, q, hrun, hp, hq⟩ := exists_run [] as' bs' c
  rw [← hu] at hrun
  refine ⟨p, q, ⟨n, u, hc, hrun⟩, (hleft.suffix_of_plain hp).trans ?_,
    (hright.prefix_of_plain hq).trans ?_⟩
  · obtain ⟨more, rfl⟩ := hsuffix
    exact ⟨textOf more, (textOf_append more left).symm⟩
  · obtain ⟨more, rfl⟩ := hprefix
    exact ⟨textOf more, (textOf_append right more).symm⟩

/-! ### What is put together -/

/-- A reference is written with its parts between the parentheses of an opening. -/
lemma Reference.text_eq (r : Reference) : r.text = "var".toList
    ++ '(' :: (r.lead ++ r.name ++ r.gap ++ (r.fallback.elim [] fun f => ',' :: f) ++ [')']) := by
  simp [text, opening_eq]

/-- A reference that stands for nothing has no parentheses but its own. -/
lemma exists_text_eq (hr : r.IsWellFormed isNameChar) (hnone : next? vs r = none) :
    ∃ rest, r.text = "var".toList ++ '(' :: rest ∧ '(' ∉ rest := by
  obtain ⟨ns, -, hns, hname⟩ := hr.name_eq
  have hblank : ∀ u : Text, (∀ c ∈ u, isBlank c) → '(' ∉ u :=
    fun u hu hmem => absurd (hu _ hmem) (by decide)
  have hmid : '(' ∉ r.name := by
    rw [hname]
    simpa using fun h => absurd (hns _ h) (by decide)
  have hfallback : '(' ∉ r.fallback.elim [] fun f => ',' :: f := by
    cases hf : r.fallback with
    | none => simp
    | some f =>
      -- The fallback is blank, as it does not count.
      obtain ⟨a, b, ha, hb, hstrip, -⟩ := Text.exists_strip f
      have hempty : Text.strip f = [] := by
        have htrimmed := (Option.or_eq_none_iff.mp hnone).2
        simpa [Reference.trimmedFallback?, hf] using htrimmed
      rw [hempty, List.nil_append] at hstrip
      simpa [hstrip] using ⟨hblank a ha, hblank b hb⟩
  refine ⟨_, r.text_eq, ?_⟩
  simp only [List.mem_append, not_or]
  exact ⟨⟨⟨⟨hblank _ hr.lead_blank, hmid⟩, hblank _ hr.gap_blank⟩, hfallback⟩, by decide⟩

/-- A reference that stands for nothing has only the parenthesis of its opening. -/
lemma eq_var_of_text_eq (hr : r.IsWellFormed isNameChar) (hnone : next? vs r = none)
    (h : r.text = x ++ '(' :: y) : x = "var".toList := by
  obtain ⟨rest, hrest, hfree⟩ := exists_text_eq hr hnone
  exact ((List.append_cons_inj_of_notMem (by decide) hfree).mp (hrest.symm.trans h)).1.symm

/-- A text begins with one reference at most. -/
lemma eq_of_text_append (hq : q.IsWellFormed isNameChar) (hr : r.IsWellFormed isNameChar)
    (h : q.text ++ x = r.text ++ y) : q = r := by
  have hreadq : reference? isNameChar (q.text ++ x) = some (q, x) :=
    (reference?_eq_some_iff isNameClass_word).mpr ⟨hq, rfl⟩
  have hreadr : reference? isNameChar (q.text ++ x) = some (r, y) :=
    (reference?_eq_some_iff isNameClass_word).mpr ⟨hr, h⟩
  cases hreadq.symm.trans hreadr
  rfl

/-- The parenthesis of a reference with a defined target that is left is a plain character. -/
lemma exists_plain_of_namesDefined (h : Expands vs (segments isNameChar t) ls)
    (hr : r.IsWellFormed isNameChar) (hsome : (vs.get? r.name).isSome)
    (htext : textOf ls = before ++ r.text ++ after) :
    ∃ as bs, ls = as ++ .plain '(' :: bs ∧ textOf as = before ++ "var".toList := by
  have hplace := htext
  rw [r.text_eq, ← List.append_assoc, List.append_assoc, List.cons_append] at hplace
  obtain ⟨as, s, bs, a, b, rfl, hs, hbefore⟩ := exists_segment_of_textOf hplace
  cases s with
  | plain c =>
    obtain ⟨rfl, hc⟩ : a = [] ∧ c = '(' := by
      rcases List.singleton_eq_append_iff.mp hs with ⟨ha, hb⟩ | ⟨-, hb⟩
      · exact ⟨ha, (List.cons.inj hb).1.symm⟩
      · cases hb
    refine ⟨as, bs, by rw [hc], ?_⟩
    rw [hbefore, List.append_nil]
  | call q =>
    -- It would be the parenthesis of a reference that is left, and that one stands for nothing.
    obtain ⟨hnone, hmem⟩ := h.of_call (r := q) (by simp)
    have hq : q.IsWellFormed isNameChar := by
      rcases hmem with hmem | ⟨u, hmem⟩ <;>
        exact isWellFormed_of_mem_segments isNameClass_word hmem
    have hfront : before = textOf as := by
      rw [eq_var_of_text_eq hq hnone hs] at hbefore
      exact (List.append_left_inj _).mp hbefore
    rw [textOf_append, ← hfront, List.append_assoc] at htext
    obtain rfl := eq_of_text_append hq hr ((List.append_right_inj _).mp htext)
    rw [(Option.or_eq_none_iff.mp hnone).1] at hsome
    cases hsome

/-- Characters at the end that no reference ends with are plain. -/
lemma exists_map_plain_of_textOf (hw : ')' ∉ w) (h : textOf as = x ++ w) :
    ∃ front, as = front ++ w.map .plain ∧ textOf front = x := by
  induction w using List.reverseRecOn generalizing as with
  | nil => exact ⟨as, by simp, by rw [h, List.append_nil]⟩
  | append_singleton w c ih =>
    rw [List.mem_append, not_or] at hw
    rw [← List.append_assoc] at h
    rcases List.eq_nil_or_concat as with rfl | ⟨as, s, rfl⟩
    · simp [textOf] at h
    · rw [List.concat_eq_append, textOf_append] at h
      cases s with
      | plain d =>
        obtain ⟨hfront, hd⟩ := List.append_inj' h rfl
        cases hd
        obtain ⟨front, rfl, hx⟩ := ih hw.1 hfront
        exact ⟨front, by simp, hx⟩
      | call q =>
        -- A reference ends with a parenthesis.
        have hlast := congrArg List.getLast? h
        simp [textOf, Segment.text, Reference.text] at hlast
        exact absurd hlast (by simpa using hw.2)

/-- The opening of a reference with a defined target that is left is made of plain characters. -/
lemma exists_opening_of_namesDefined (h : Expands vs (segments isNameChar t) ls)
    (hr : r.IsWellFormed isNameChar) (hsome : (vs.get? r.name).isSome)
    (htext : textOf ls = before ++ r.text ++ after) :
    ∃ as bs, ls = as ++ Reference.opening.map .plain ++ bs ∧ textOf as = before := by
  obtain ⟨as, bs, rfl, has⟩ := exists_plain_of_namesDefined h hr hsome htext
  obtain ⟨front, rfl, hfront⟩ := exists_map_plain_of_textOf (by decide) has
  exact ⟨front, bs, by simp [Reference.opening], hfront⟩

/-! ### Openings in runs -/

/-- Could the characters be the beginning of a text that begins with a reference to a defined
variable? -/
def MayBeginDefined (vs : Variables) (w : Text) : Prop :=
  ∃ t, w <+: t ∧ beginsDefined vs t = true

/-- What an opening begins with, short of all of it. -/
def openingHeads : List Text :=
  ["v".toList, "va".toList, "var".toList]

/-- What an opening ends with, short of all of it. -/
def openingTails : List Text :=
  ["ar(".toList, "r(".toList, "(".toList]

/-- What begins as an opening does is all of it or one of its heads. -/
lemma prefix_opening_or_mem_heads (h : 'v' :: w <+: Reference.opening ++ t) :
    Reference.opening <+: 'v' :: w ∨ 'v' :: w ∈ openingHeads := by
  rcases List.prefix_or_prefix_of_prefix h (List.prefix_append _ _) with hw | hopening
  · have hcuts : ∀ u ∈ Reference.opening.inits,
        u = [] ∨ Reference.opening <+: u ∨ u ∈ openingHeads := by decide
    exact (hcuts _ ((List.mem_inits _ _).mpr hw)).resolve_left (List.cons_ne_nil _ _)
  · exact Or.inl hopening

/-- What ends as an opening does is all of it or one of its tails. -/
lemma suffix_opening_or_mem_tails (h : w ++ ['('] <:+ t ++ Reference.opening) :
    Reference.opening <:+ w ++ ['('] ∨ w ++ ['('] ∈ openingTails := by
  rcases List.suffix_or_suffix_of_suffix h (List.suffix_append _ _) with hw | hopening
  · have hcuts : ∀ u ∈ Reference.opening.tails,
        u = [] ∨ Reference.opening <:+ u ∨ u ∈ openingTails := by decide
    exact (hcuts _ ((List.mem_tails _ _).mpr hw)).resolve_left (List.concat_ne_nil _ _)
  · exact Or.inl hopening

/-- The first character of an opening that is left belongs to a run, which goes on as what is
left. -/
lemma exists_head_of_opening
    (h : Expands vs (segments isNameChar t) (as ++ Reference.opening.map .plain ++ bs)) :
    ∃ run w, IsRun vs t run ∧ w <:+ run ∧ w <+: Reference.opening ++ textOf bs ∧
      (Reference.opening <+: w ∨ w ∈ openingHeads) := by
  have hplace : as ++ Reference.opening.map .plain ++ bs
      = as ++ .plain 'v' :: ("ar(".toList.map .plain ++ bs) := List.append_assoc ..
  rw [hplace] at h
  obtain ⟨p, q, hrun, -, hq⟩ := h.exists_isRun
  rw [textOf_append, textOf_map_plain] at hq
  have hafter : 'v' :: q <+: Reference.opening ++ textOf bs := (List.prefix_cons_inj _).mpr hq
  exact ⟨_, 'v' :: q, hrun, List.suffix_append p _, hafter, prefix_opening_or_mem_heads hafter⟩

/-- The last character of an opening that is left belongs to a run, and what is left before that
character is what the run has there. -/
lemma exists_tail_of_opening
    (h : Expands vs (segments isNameChar t) (as ++ Reference.opening.map .plain ++ bs)) :
    ∃ run, IsRun vs t run ∧
      ((∃ w, w <:+ run ∧ w <+: Reference.opening ++ textOf bs ∧ Reference.opening <+: w) ∨
        ∃ w ∈ openingTails, w <+: run) := by
  have hplace : as ++ Reference.opening.map .plain ++ bs
      = (as ++ "var".toList.map .plain) ++ .plain '(' :: bs := by simp [Reference.opening]
  rw [hplace] at h
  obtain ⟨p, q, hrun, hp, hq⟩ := h.exists_isRun
  refine ⟨_, hrun, ?_⟩
  rw [List.append_cons]
  have hbefore : p ++ ['('] <:+ textOf as ++ Reference.opening := by
    rw [textOf_append, textOf_map_plain] at hp
    obtain ⟨more, hmore⟩ := hp
    refine ⟨more, ?_⟩
    rw [← List.append_assoc, hmore, List.append_assoc]
    rfl
  rcases suffix_opening_or_mem_tails hbefore with ⟨front, hfront⟩ | htail
  · rw [← hfront, List.append_assoc]
    exact Or.inl ⟨_, List.suffix_append front _, (List.prefix_append_right_inj _).mpr hq,
      List.prefix_append _ _⟩
  · exact Or.inr ⟨_, htail, List.prefix_append _ _⟩

/-! ### What resolution leaves -/

/-- Where no chain of steps from the value of a variable is longer than `referenceDepth`, what it
becomes has no reference to a defined variable, unless one is put together: in the runs of the
texts that are reached, no opening may begin one, and there may not be both a run that ends with
the beginning of an opening and a run that begins with the end of one. -/
theorem resolved_names_no_defined (vs : Variables) {name value : Text}
    (hvalue : vs.get? name = some value) (hshallow : IsShallow (steps vs) referenceDepth value)
    (hwhole : ∀ run, IsRun vs value run → ∀ w, w <:+ run → Reference.opening <+: w →
      ¬ MayBeginDefined vs w)
    (hparts : (∀ run, IsRun vs value run → ∀ w ∈ openingHeads, ¬ w <:+ run) ∨
      ∀ run, IsRun vs value run → ∀ w ∈ openingTails, ¬ w <+: run) :
    ∃ result, OrderedMap.lookupEntry name (resolved vs) = some result ∧
      ¬ NamesDefined vs result := by
  refine ⟨_, lookupEntry_resolved hvalue, ?_⟩
  rintro ⟨before, r, after, hr, hsome, heq⟩
  obtain ⟨ls, hls, htext⟩ := resolvesTo_resolve hshallow
  rw [heq] at htext
  obtain ⟨as, bs, rfl, rfl⟩ := exists_opening_of_namesDefined hls hr hsome htext
  have hbegins : beginsDefined vs (Reference.opening ++ textOf bs) = true := by
    rw [textOf_append, textOf_append, textOf_map_plain, List.append_assoc,
      List.append_assoc] at htext
    exact beginsDefined_iff.mpr ⟨r, after, hr, hsome, (List.append_right_inj _).mp htext⟩
  rcases hparts with hheads | htails
  · obtain ⟨run, w, hrun, hw, hafter, hopening | hhead⟩ := exists_head_of_opening hls
    · exact hwhole run hrun w hw hopening ⟨_, hafter, hbegins⟩
    · exact hheads run hrun w hhead hw
  · obtain ⟨run, hrun, ⟨w, hw, hafter, hopening⟩ | ⟨w, htail, hw⟩⟩ := exists_tail_of_opening hls
    · exact hwhole run hrun w hw hopening ⟨_, hafter, hbegins⟩
    · exact htails run hrun w htail hw

/-- Room around a reference, and a fallback that has too many parentheses to be read as one. -/
def padded : Variables :=
  .ofList [("--gap".toList, "8px".toList),
    ("--pad".toList, "calc(var(--gap) * 2) var(--wide, calc(max(1px, 2px) + 3px))".toList)]

/-- One reference of the value is replaced.  The call behind it is left, as it names no defined
variable. -/
theorem resolved_names_no_defined_padded :
    let value := "calc(var(--gap) * 2) var(--wide, calc(max(1px, 2px) + 3px))".toList
    padded.get? "--pad".toList = some value ∧ IsShallow (steps padded) referenceDepth value ∧
      IsRun padded value " * 2) var(--wide, calc(max(1px, 2px) + 3px))".toList ∧
      ∃ result, OrderedMap.lookupEntry "--pad".toList (resolved padded) = some result ∧
        ¬ NamesDefined padded result := by
  intro value
  have hvalue : padded.get? "--pad".toList = some value := by decide +kernel
  have hshallow : IsShallow (steps padded) referenceDepth value := by decide +kernel
  have hwhole : ∀ u ∈ reached (steps padded) referenceDepth value, ∀ run ∈ runs u,
      ∀ w ∈ run.tails, Reference.opening <+: w →
        w = "var(--wide, calc(max(1px, 2px) + 3px))".toList := by decide +kernel
  have hheads : ∀ u ∈ reached (steps padded) referenceDepth value, ∀ run ∈ runs u,
      ∀ w ∈ openingHeads, ¬ w <:+ run := by decide +kernel
  refine ⟨hvalue, hshallow, ⟨0, value, .nil value, by decide +kernel⟩,
    resolved_names_no_defined padded hvalue hshallow ?_ (Or.inl ?_)⟩
  · rintro run hrun w hw hopening ⟨t, ⟨more, rfl⟩, hbegins⟩
    obtain ⟨u, hu, hmem⟩ := hrun.exists_mem_reached hshallow
    obtain rfl := hwhole u hu run hmem w ((List.mem_tails w run).mpr hw) hopening
    -- Reading fails at the second level of parentheses, whatever follows.
    have hread : reference? isNameChar
        ("var(--wide, calc(max(1px, 2px) + 3px))".toList ++ more) = none := rfl
    rw [beginsDefined, hread] at hbegins
    cases hbegins
  · intro run hrun
    obtain ⟨u, hu, hmem⟩ := hrun.exists_mem_reached hshallow
    exact hheads u hu run hmem

/-! ### Names that a value mentions -/

/-- The name in an opening at the front of a text, whether or not a whole reference is there. -/
def mention? (t : Text) : Option Text := do
  let t ← Text.after? Reference.opening t
  let (name, _) ← referenceName? isNameChar (Text.stripLeft t)
  return name

/-- The names in all openings of a text, in fallbacks too. -/
def mentions : Text → List Text
  | [] => []
  | c :: cs => (mention? (c :: cs)).toList ++ mentions cs

/-- The names that the value of a variable mentions. -/
def links (vs : Variables) (name : Text) : List Text :=
  (vs.get? name).elim [] mentions

/-- Only names of variables have to be looked at, to bound the chains of links. -/
lemma isShallow_links (h : ∀ name ∈ vs.keys, IsShallow (links vs) n name) (name : Text) :
    IsShallow (links vs) n name := by
  by_cases hname : name ∈ vs.keys
  · exact h name hname
  · refine isShallow_of_nil ?_
    have hnone : vs.get? name = none := by
      rw [← Option.not_isSome_iff_eq_none, Option.isSome_iff_exists]
      exact fun hsome => hname (OrderedMap.mem_keys_iff.mpr hsome)
    rw [links, hnone]
    rfl

/-- A call with parentheses two levels deep, a reference that is put together by substitution, and
fallbacks that take up the depth. -/
def tangled : Variables :=
  .ofList [("--d".toList, "1px".toList), ("--a".toList, "2".toList), ("--v".toList, "v".toList),
    ("--nested".toList, "var(--d, f(var(--a)))".toList),
    ("--pasted".toList, "var(--v)ar(--d)".toList),
    ("--s0".toList, "var(--u, var(--s1))".toList), ("--s1".toList, "var(--u, var(--s2))".toList),
    ("--s2".toList, "var(--u, var(--s3))".toList), ("--s3".toList, "var(--u, var(--s4))".toList),
    ("--s4".toList, "var(--u, var(--s5))".toList), ("--s5".toList, "var(--u, var(--d))".toList)]

/-- The values are balanced and mention each other without cycles, in chains of at most
`referenceDepth` links.  Yet three of the variables keep a reference to a defined one. -/
theorem resolved_names_defined :
    (∀ name, IsShallow (links tangled) referenceDepth name) ∧
      (∀ name n, ¬ Chain (links tangled) (n + 1) name name) ∧
      (∀ name value, tangled.get? name = some value → Balanced value) ∧
      ∀ name ∈ ["--nested".toList, "--pasted".toList, "--s0".toList],
        ∃ result, OrderedMap.lookupEntry name (resolved tangled) = some result ∧
          NamesDefined tangled result := by
  have hshallow : ∀ name, IsShallow (links tangled) referenceDepth name :=
    isShallow_links (by decide +kernel)
  refine ⟨hshallow, fun name n => (hshallow name).not_cycle n, ?_, ?_⟩
  · intro name value hvalue
    have hbalanced : ∀ value ∈ tangled.values, Balanced value := by decide +kernel
    exact hbalanced value (OrderedMap.mem_values_iff.mpr ⟨name, hvalue⟩)
  · intro name hname
    have hleft : ∀ name ∈ ["--nested".toList, "--pasted".toList, "--s0".toList],
        ∃ result ∈ OrderedMap.lookupEntry name (resolved tangled), NamesDefined tangled result := by
      decide +kernel
    exact hleft name hname

end Style

end DesignTokens
