import DesignTokens.Proofs.Chain
import DesignTokens.Proofs.OrderedMap
import DesignTokens.Proofs.Style.Reference
import DesignTokens.Style.Variables

/-!
# How deep references are followed

A reference stands for the value of its target or, if that is not defined, for its fallback.  A step
leads from a text to what one of its references stands for.  `Expands` replaces references as long
as there is something that they stand for, without any limit.

Resolution goes exactly `referenceDepth` steps deep.  Where no chain is longer it does what
unlimited replacement does, and the text at the end of a chain of that length is part of the result
as it is (`resolved_depth_exact`).  So a variable from which a cycle can be reached keeps a
reference that stands for something.
-/

namespace DesignTokens

namespace Style

variable {isName : Char → Bool} {vs : Variables} {k m n : Nat} {t u v : Text} {r : Reference}
  {ss ls as bs : List Segment}

/-! ### Segments -/

/-- The text that segments make up. -/
def textOf (ss : List Segment) : Text :=
  ss.flatMap Segment.text

/-- Segments one behind the other make up their texts one behind the other. -/
lemma textOf_append (as bs : List Segment) : textOf (as ++ bs) = textOf as ++ textOf bs :=
  List.flatMap_append

/-- The segments of a text make it up. -/
lemma textOf_segments (isName : Char → Bool) (t : Text) : textOf (segments isName t) = t :=
  flatMap_text_segments isName t

/-- A reference at the front is one segment. -/
lemma segments_of_reference {rest : Text} (h : reference? isName t = some (r, rest)) :
    segments isName t = .call r :: segments isName rest := by
  rw [segments]
  split
  · next h' =>
    rw [h] at h'
    cases h'
    rfl
  · next h' =>
    rw [h] at h'
    cases h'

/-- The empty text has no segments. -/
lemma segments_nil : segments isName [] = [] := by
  rw [segments]
  rfl

/-- A character at which no reference begins is a segment of its own. -/
lemma segments_of_plain {c : Char} (h : reference? isName (c :: t) = none) :
    segments isName (c :: t) = .plain c :: segments isName t := by
  rw [segments]
  split
  · next h' =>
    rw [h] at h'
    cases h'
  · rfl

/-- The references among the segments of a text are well formed. -/
lemma isWellFormed_of_mem_segments (hclass : IsNameClass isName)
    (hr : .call r ∈ segments isName t) : r.IsWellFormed isName := by
  induction t using segments.induct isName with
  | case1 t r' rest h _ ih =>
    rw [segments_of_reference h] at hr
    rcases List.mem_cons.mp hr with heq | hr
    · cases heq
      exact ((reference?_eq_some_iff hclass).mp h).1
    · exact ih hr
  | case2 _ =>
    rw [segments_nil] at hr
    cases hr
  | case3 c cs h ih =>
    rw [segments_of_plain h] at hr
    rcases List.mem_cons.mp hr with heq | hr
    · cases heq
    · exact ih hr

/-- A reference among the segments of a text stands in the text. -/
lemma infix_of_mem_segments (hr : .call r ∈ segments isName t) : r.text <:+: t := by
  obtain ⟨as, bs, hsplit⟩ := List.append_of_mem hr
  refine ⟨textOf as, textOf bs, ?_⟩
  rw [← textOf_segments isName t, hsplit, textOf_append, List.append_assoc]
  rfl

/-! ### Steps -/

/-- What a reference stands for: the value of its target, or else its fallback. -/
def next? (vs : Variables) (r : Reference) : Option Text :=
  (vs.get? r.name).or r.trimmedFallback?

/-- What the references of a text stand for. -/
def steps (vs : Variables) (t : Text) : List Text :=
  (segments isNameChar t).filterMap fun
    | .plain _ => none
    | .call r => next? vs r

/-- A step leads to what one of the references among the segments stands for. -/
lemma mem_steps_iff :
    u ∈ steps vs t ↔ ∃ r, .call r ∈ segments isNameChar t ∧ next? vs r = some u := by
  rw [steps, List.mem_filterMap]
  constructor
  · rintro ⟨s, hs, hu⟩
    cases s with
    | plain c => cases hu
    | call r => exact ⟨r, hs, hu⟩
  · rintro ⟨r, hr, hu⟩
    exact ⟨.call r, hr, hu⟩

/-! ### Unlimited replacement -/

/-- What is left of segments when each reference is replaced by what is left of the text that it
stands for.  Only references that stand for nothing are kept. -/
inductive Expands (vs : Variables) : List Segment → List Segment → Prop
  /-- Nothing leaves nothing. -/
  | nil : Expands vs [] []
  /-- A plain character is left as it is. -/
  | plain {ss ls : List Segment} (c : Char) (h : Expands vs ss ls) :
      Expands vs (.plain c :: ss) (.plain c :: ls)
  /-- A reference that stands for nothing is left as it is. -/
  | keep {r : Reference} {ss ls : List Segment} (hr : next? vs r = none) (h : Expands vs ss ls) :
      Expands vs (.call r :: ss) (.call r :: ls)
  /-- Another reference is replaced. -/
  | replace {r : Reference} {t : Text} {ss as bs : List Segment} (hr : next? vs r = some t)
      (ht : Expands vs (segments isNameChar t) as) (h : Expands vs ss bs) :
      Expands vs (.call r :: ss) (as ++ bs)

/-- Unlimited replacement in a text ends, with another text. -/
def ResolvesTo (vs : Variables) (t u : Text) : Prop :=
  ∃ ls, Expands vs (segments isNameChar t) ls ∧ textOf ls = u

/-- There is only one way to replace references. -/
lemma Expands.unique (has : Expands vs ss as) (hbs : Expands vs ss bs) : as = bs := by
  induction has generalizing bs with
  | nil =>
    cases hbs
    rfl
  | plain c _ ih =>
    cases hbs with
    | plain _ h => rw [ih h]
  | keep hr _ ih =>
    cases hbs with
    | keep _ h => rw [ih h]
    | replace hr' _ _ => cases hr.symm.trans hr'
  | replace hr _ _ iht ih =>
    cases hbs with
    | keep hr' _ => cases hr.symm.trans hr'
    | replace hr' ht h =>
      cases hr.symm.trans hr'
      rw [iht ht, ih h]

/-- References that stand for nothing are all left. -/
lemma expands_self (hss : ∀ r, .call r ∈ ss → next? vs r = none) : Expands vs ss ss := by
  induction ss with
  | nil => exact .nil
  | cons s ss ih =>
    have hrest := ih fun r hr => hss r (List.mem_cons_of_mem _ hr)
    cases s with
    | plain c => exact hrest.plain c
    | call r => exact hrest.keep (hss r List.mem_cons_self)

/-! ### Resolution with a budget -/

/-- What one round of resolution makes of a segment, given what is made of the texts that
references stand for. -/
def replaced (vs : Variables) (f : Text → Text) : Segment → Text
  | .plain c => [c]
  | .call r =>
      match next? vs r with
      | some t => f t
      | none => r.text

/-- With some budget, resolution replaces each reference by the resolution of what it stands for. -/
lemma resolve_succ (vs : Variables) (budget : Nat) (t : Text) :
    resolve vs (budget + 1) t
      = (segments isNameChar t).flatMap (replaced vs (resolve vs budget)) := by
  rw [resolve]
  congr 1
  funext s
  cases s with
  | plain c => rfl
  | call r =>
    dsimp only
    rw [replaced, next?]
    cases vs.get? r.name with
    | some value => rfl
    | none => cases r.trimmedFallback? <;> rfl

/-- If the texts that references stand for become what unlimited replacement makes of them, then
so do the segments. -/
lemma exists_expands_of_replaced {f : Text → Text}
    (hf : ∀ r t, .call r ∈ ss → next? vs r = some t → ResolvesTo vs t (f t)) :
    ∃ ls, Expands vs ss ls ∧ textOf ls = ss.flatMap (replaced vs f) := by
  induction ss with
  | nil => exact ⟨[], .nil, rfl⟩
  | cons s ss ih =>
    obtain ⟨bs, hbs, htext⟩ := ih fun r t hr => hf r t (List.mem_cons_of_mem _ hr)
    rw [List.flatMap_cons, ← htext]
    cases s with
    | plain c => exact ⟨.plain c :: bs, hbs.plain c, rfl⟩
    | call r =>
      rw [replaced]
      cases hr : next? vs r with
      | none => exact ⟨.call r :: bs, hbs.keep hr, rfl⟩
      | some t =>
        obtain ⟨as, has, hast⟩ := hf r t List.mem_cons_self hr
        exact ⟨as ++ bs, .replace hr has hbs, by rw [textOf_append, hast]⟩

/-- Where no chain is longer than the budget, resolution is unlimited replacement. -/
lemma resolvesTo_resolve {budget : Nat} (hshort : IsShallow (steps vs) budget t) :
    ResolvesTo vs t (resolve vs budget t) := by
  induction budget generalizing t with
  | zero =>
    refine ⟨_, expands_self ?_, textOf_segments isNameChar t⟩
    intro r hr
    rw [← Option.not_isSome_iff_eq_none, Option.isSome_iff_exists]
    rintro ⟨u, hu⟩
    have hmem := mem_steps_iff.mpr ⟨r, hr, hu⟩
    rw [hshort.eq_nil] at hmem
    cases hmem
  | succ budget ih =>
    rw [resolve_succ]
    refine exists_expands_of_replaced fun r u hr hu => ih (hshort.of_mem ?_)
    exact mem_steps_iff.mpr ⟨r, hr, hu⟩

/-- The end of a chain as long as the budget is part of the result as it is. -/
lemma infix_resolve_of_chain (h : Chain (steps vs) n t u) : u <:+: resolve vs n t := by
  induction h with
  | nil t => exact List.infix_rfl
  | @cons n t u v hstep _ ih =>
    obtain ⟨r, hr, hu⟩ := mem_steps_iff.mp hstep
    obtain ⟨as, bs, hsplit⟩ := List.append_of_mem hr
    have hreplaced : replaced vs (resolve vs n) (.call r) = resolve vs n u := by
      rw [replaced, hu]
    rw [resolve_succ, hsplit, List.flatMap_append, List.flatMap_cons, hreplaced,
      ← List.append_assoc]
    exact ih.trans (List.infix_append _ _ _)

/-! ### All variables -/

/-- What resolution makes of a variable. -/
lemma lookupEntry_resolved (hvalue : vs.get? t = some v) :
    OrderedMap.lookupEntry t (resolved vs) = some (resolve vs referenceDepth v) := by
  have hmap := OrderedMap.lookupEntry_map (resolve vs referenceDepth) t vs.entries
  exact hmap.trans (congrArg (Option.map _) hvalue)

/-- If no chain of steps from the value of a variable is longer than `referenceDepth`, then the
variable becomes what unlimited replacement makes of its value.  The end of each chain of that
length is part of what it becomes, as it is.  If a cycle can be reached, this has a reference that
stands for something. -/
theorem resolved_depth_exact (vs : Variables) {name value : Text}
    (hvalue : vs.get? name = some value) :
    ∃ result, OrderedMap.lookupEntry name (resolved vs) = some result ∧
      (IsShallow (steps vs) referenceDepth value → ∀ u, ResolvesTo vs value u ↔ u = result) ∧
      (∀ t, Chain (steps vs) referenceDepth value t → t <:+: result) ∧
      ∀ k n t, Chain (steps vs) k value t → Chain (steps vs) (n + 1) t t →
        ∃ r, r.IsWellFormed isNameChar ∧ (next? vs r).isSome ∧ r.text <:+: result := by
  refine ⟨_, lookupEntry_resolved hvalue, ?_, fun t ht => infix_resolve_of_chain ht, ?_⟩
  · intro hshort u
    have hresult := resolvesTo_resolve hshort
    constructor
    · rintro ⟨ls, hls, rfl⟩
      obtain ⟨ls', hls', heq⟩ := hresult
      rw [← heq, hls.unique hls']
    · rintro rfl
      exact hresult
  · intro k n t ht hcycle
    obtain ⟨u, v, hu, hstep⟩ := ht.exists_of_cycle hcycle referenceDepth
    obtain ⟨r, hr, hv⟩ := mem_steps_iff.mp hstep
    refine ⟨r, isWellFormed_of_mem_segments isNameClass_word hr, ?_, ?_⟩
    · rw [hv]
      rfl
    · exact (infix_of_mem_segments hr).trans (infix_resolve_of_chain hu)

/-- Two variables that refer to each other, and one whose target is not defined. -/
def loop : Variables :=
  .ofList [("--a".toList, "calc(var(--b) + 1px)".toList), ("--b".toList, "var(--a)".toList),
    ("--c".toList, "var(--d, 2px)".toList)]

/-- In the loop, the value of the first variable leads to itself in two steps and in
`referenceDepth` ones, so it stands in what the variable becomes.  The third variable is no part of
the loop and becomes what unlimited replacement makes of its value. -/
theorem resolved_depth_exact_loop :
    let value := "calc(var(--b) + 1px)".toList
    (∃ result, OrderedMap.lookupEntry "--a".toList (resolved loop) = some result ∧
      Chain (steps loop) 2 value value ∧ Chain (steps loop) referenceDepth value value ∧
        value <:+: result ∧
        ∃ r, r.IsWellFormed isNameChar ∧ (next? loop r).isSome ∧ r.text <:+: result) ∧
    ∃ result, OrderedMap.lookupEntry "--c".toList (resolved loop) = some result ∧
      IsShallow (steps loop) referenceDepth "var(--d, 2px)".toList ∧
        ResolvesTo loop "var(--d, 2px)".toList result := by
  intro value
  have htwo : Chain (steps loop) 2 value value :=
    .cons (by decide +kernel : "var(--a)".toList ∈ steps loop value)
      (.cons (by decide +kernel) (.nil value))
  have hten : Chain (steps loop) referenceDepth value value := htwo.again 5
  obtain ⟨result, hresult, -, hinfix, hcycle⟩ :=
    resolved_depth_exact loop (by decide +kernel : loop.get? "--a".toList = some value)
  obtain ⟨result', hresult', hexact, -⟩ := resolved_depth_exact loop
    (by decide +kernel : loop.get? "--c".toList = some "var(--d, 2px)".toList)
  have hshallow : IsShallow (steps loop) referenceDepth "var(--d, 2px)".toList := by decide +kernel
  exact ⟨⟨result, hresult, htwo, hten, hinfix value hten, hcycle 0 1 value (.nil value) htwo⟩,
    ⟨result', hresult', hshallow, (hexact hshallow result').mpr rfl⟩⟩

end Style

end DesignTokens
