import DesignTokens.Proofs.Text.Braces
import DesignTokens.Proofs.Text.Split

/-!
# Groups of alternatives

The group that is replaced in a step is the leftmost one without a brace inside.  Here that group is
told apart by what stands around it (`group?_eq_some_iff`), and the replacement of groups is told as
the recursion that it is (`expandBraces_eq`): each step leaves one opening brace less, and nothing
that is left holds a group (`not_hasGroup_of_mem_expandBraces`).

Where no group stands inside another one, the groups are replaced from the left to the right.  The
results are then listed by the positions of the chosen alternatives, in lexicographic order
(`FlatPattern.expandBraces_text`).
-/

namespace DesignTokens

namespace Glob

open Text

variable {t o : Text} {g : Group}

/-! ### Braces -/

/-- Somewhere a brace is opened and closed again with no brace in between. -/
def HasGroup (t : Text) : Prop :=
  ∃ x m y, t = x ++ '\x7b' :: (m ++ '\x7d' :: y) ∧ Braceless m

/-- Only the braces count for whether there is a group. -/
lemma hasGroup_iff : HasGroup t ↔ ['\x7b', '\x7d'] <:+: t.filter isBrace := by
  constructor
  · rintro ⟨x, m, y, rfl, hm⟩
    refine ⟨x.filter isBrace, y.filter isBrace, ?_⟩
    rw [List.filter_append, List.filter_cons_of_pos rfl, List.filter_append, hm.filter_eq,
      List.filter_cons_of_pos rfl]
    simp
  · rintro ⟨a, b, h⟩
    rw [List.append_assoc, eq_comm, List.filter_eq_append_iff] at h
    obtain ⟨x, u, rfl, -, hu⟩ := h
    obtain ⟨m, v, rfl, hm, -, hv⟩ := List.filter_eq_cons_iff.mp hu
    obtain ⟨m', y, rfl, hm', -, -⟩ := List.filter_eq_cons_iff.mp hv
    exact ⟨x ++ m, m', y, by simp, fun c hc => Bool.eq_false_iff.mpr (hm' c hc)⟩

/-- A text without a brace in the middle makes no group. -/
lemma hasGroup_insert_iff {x y : Text} (ho : Braceless o) :
    HasGroup (x ++ o ++ y) ↔ HasGroup (x ++ y) := by
  rw [hasGroup_iff, hasGroup_iff, List.filter_append, List.filter_append, ho.filter_eq,
    List.append_nil, List.filter_append]

/-- A text without braces has no group. -/
lemma not_hasGroup_of_braceless (h : Braceless t) : ¬ HasGroup t := by
  rw [hasGroup_iff, h.filter_eq, List.infix_nil]
  exact List.cons_ne_nil _ _

/-- A group of a text is one of every text around it. -/
lemma HasGroup.mono {s : Text} (h : HasGroup s) (hst : s <:+: t) : HasGroup t :=
  hasGroup_iff.mpr ((hasGroup_iff.mp h).trans (hst.filter isBrace))

/-- A group begins with the first character, if the first brace behind it closes, or behind it. -/
lemma hasGroup_cons_iff {c : Char} :
    HasGroup (c :: t) ↔
      (c = '\x7b' ∧ (t.filter isBrace).head? = some '\x7d') ∨ HasGroup t := by
  rw [hasGroup_iff, hasGroup_iff]
  cases hc : isBrace c with
  | true =>
    rw [List.filter_cons_of_pos hc, List.infix_cons_iff]
    refine or_congr_left ?_
    rw [List.cons_prefix_cons, eq_comm]
    refine and_congr_right fun _ => ?_
    cases t.filter isBrace <;> simp [eq_comm]
  | false =>
    rw [List.filter_cons_of_neg (by simp [hc])]
    refine (or_iff_right ?_).symm
    rintro ⟨rfl, -⟩
    cases hc

/-- The first brace of a text stands behind what has none. -/
lemma head?_filter {d : Char} {m y : Text} (hm : Braceless m) (hd : isBrace d = true) :
    ((m ++ d :: y).filter isBrace).head? = some d := by
  rw [List.filter_append, hm.filter_eq, List.filter_cons_of_pos hd]
  rfl

/-! ### The group that is replaced -/

/-- No group is found in a character and a text without braces. -/
lemma group?_of_braceless {c : Char} (ht : Braceless t) : group? (c :: t) = none := by
  have hnone : t.dropWhile (fun c => !isBrace c) = [] := by
    rw [List.dropWhile_eq_nil_iff]
    intro d hd
    rw [ht d hd]
    rfl
  rw [group?, hnone]

/-- A group is found at the front if the next brace closes it, and further on otherwise. -/
lemma group?_cons {c d : Char} {m y : Text} (hm : Braceless m) (hd : isBrace d = true) :
    group? (c :: (m ++ d :: y)) = if c = '\x7b' ∧ d = '\x7d' then some ⟨[], m, y⟩
      else (group? (m ++ d :: y)).map fun g => { g with before := c :: g.before } := by
  have hfront : ∀ e ∈ m, (!isBrace e) = true := fun e he => by rw [hm e he]; rfl
  have hinside : (m ++ d :: y).takeWhile (fun e => !isBrace e) = m := by
    rw [List.takeWhile_append_of_pos hfront, List.takeWhile_cons_of_neg (by simp [hd]),
      List.append_nil]
  have hbehind : (m ++ d :: y).dropWhile (fun e => !isBrace e) = d :: y := by
    rw [List.dropWhile_append_of_pos hfront, List.dropWhile_cons_of_neg (by simp [hd])]
  rw [group?, hinside, hbehind]

/-- No group stands before the one that is replaced. -/
lemma not_hasGroup_before (h : group? t = some g) : ¬ HasGroup g.before := by
  induction t generalizing g with
  | nil => cases h
  | cons c t ih =>
    rcases braceless_or_exists t with ht | ⟨m, d, y, rfl, hm, hd⟩
    · rw [group?_of_braceless ht] at h
      cases h
    rw [group?_cons hm hd] at h
    split at h
    · cases h
      exact not_hasGroup_of_braceless (List.forall_mem_nil _)
    · next hnot =>
      obtain ⟨g', hg', rfl⟩ := Option.map_eq_some_iff.mp h
      rw [hasGroup_cons_iff, not_or]
      refine ⟨?_, ih hg'⟩
      rintro ⟨rfl, hfirst⟩
      -- A closing brace that came first before the group would come first of all.
      have hhead := head?_filter (y := y) hm hd
      rw [← text_of_group? hg', Group.text, Group.fill, List.append_assoc, List.filter_append,
        List.head?_append, hfirst] at hhead
      exact hnot ⟨rfl, (Option.some.inj hhead).symm⟩

/-- The leftmost group without a brace inside is found. -/
lemma group?_append {before inside : Text} (hbefore : ¬ HasGroup before)
    (hinside : Braceless inside) (behind : Text) :
    group? (before ++ '\x7b' :: (inside ++ '\x7d' :: behind)) = some ⟨before, inside, behind⟩ := by
  induction before with
  | nil =>
    rw [List.nil_append, group?_cons hinside rfl]
    exact if_pos ⟨rfl, rfl⟩
  | cons c b ih =>
    rw [hasGroup_cons_iff, not_or] at hbefore
    obtain ⟨m, d, y, hrest, hm, hd⟩ := (braceless_or_exists
      (b ++ '\x7b' :: (inside ++ '\x7d' :: behind))).resolve_left fun h =>
        absurd (h '\x7b' (by simp)) (by decide)
    have hhead := head?_filter (y := y) hm hd
    rw [← hrest, List.filter_append, List.head?_append, List.filter_cons_of_pos rfl] at hhead
    rw [List.cons_append, hrest, group?_cons hm hd, ← hrest, ih hbefore.2, if_neg]
    · rfl
    · rintro ⟨rfl, rfl⟩
      refine hbefore.1 ⟨rfl, ?_⟩
      cases hfirst : (b.filter isBrace).head? with
      | none =>
        rw [hfirst] at hhead
        exact absurd (show some '\x7b' = some '\x7d' from hhead) (by decide)
      | some e =>
        rw [hfirst] at hhead
        exact hhead

/-- A group is found wherever there is one. -/
lemma group?_eq_none_iff : group? t = none ↔ ¬ HasGroup t := by
  constructor
  · intro h
    induction t with
    | nil => exact not_hasGroup_of_braceless (List.forall_mem_nil _)
    | cons c t ih =>
      rw [hasGroup_cons_iff, not_or]
      rcases braceless_or_exists t with ht | ⟨m, d, y, rfl, hm, hd⟩
      · refine ⟨?_, not_hasGroup_of_braceless ht⟩
        rintro ⟨-, hfirst⟩
        rw [ht.filter_eq] at hfirst
        cases hfirst
      · rw [group?_cons hm hd] at h
        split at h
        · cases h
        · next hnot =>
          rw [Option.map_eq_none_iff] at h
          refine ⟨?_, ih h⟩
          rintro ⟨rfl, hfirst⟩
          rw [head?_filter hm hd] at hfirst
          exact hnot ⟨rfl, Option.some.inj hfirst⟩
  · intro h
    cases hg : group? t with
    | none => rfl
    | some g =>
      refine absurd ⟨g.before, g.inside, g.behind, ?_, inside_of_group? hg⟩ h
      rw [← text_of_group? hg, Group.text, Group.fill]
      simp

/-! ### Replacing groups -/

/-- The alternatives of the group that is found have no brace. -/
lemma braceless_of_mem_options (hg : group? t = some g) (ho : o ∈ g.options) : Braceless o :=
  fun c hc => inside_of_group? hg c ((Text.infix_of_mem_splitOn ho).subset hc)

/-- Each replacement takes one opening brace away. -/
lemma count_fill (hg : group? t = some g) (ho : o ∈ g.options) :
    (g.fill o).count '\x7b' + 1 = t.count '\x7b' := by
  have hinside : g.inside.count '\x7b' = 0 := Braceless.count_eq (inside_of_group? hg)
  have hoption : o.count '\x7b' = 0 := (braceless_of_mem_options hg ho).count_eq
  have htext := congrArg (List.count '\x7b') (text_of_group? hg)
  simp only [Group.text, Group.fill, List.count_append, List.count_cons, List.count_nil,
    hinside, hoption] at htext ⊢
  simp at htext
  omega

/-- The leftmost group without a brace inside is replaced by each of its alternatives, and what that
gives is replaced in the same way. -/
lemma expandBraces_eq (t : Text) :
    expandBraces t = match group? t with
      | none => [t]
      | some g => g.options.flatMap fun o => expandBraces (g.fill o) := by
  cases hg : group? t with
  | none =>
    rw [expandBraces]
    cases t.count '\x7b' with
    | zero => rfl
    | succ depth => rw [expand, hg]
  | some g =>
    obtain ⟨depth, hdepth⟩ : ∃ depth, t.count '\x7b' = depth + 1 := by
      obtain ⟨o, ho⟩ := List.exists_mem_of_ne_nil g.options (List.splitOn_ne_nil ',' g.inside)
      exact ⟨_, (count_fill hg ho).symm⟩
    rw [expandBraces, hdepth, expand, hg]
    refine List.flatMap_congr fun o ho => ?_
    have hcount := count_fill hg ho
    rw [expandBraces, show (g.fill o).count '\x7b' = depth by omega]

/-- What holds of a text if it holds of the texts that the next replacement gives holds of all. -/
lemma induction_on_groups {P : Text → Prop}
    (h : ∀ t, (∀ g, group? t = some g → ∀ o ∈ g.options, P (g.fill o)) → P t) (t : Text) : P t := by
  induction hcount : t.count '\x7b' using Nat.strong_induction_on generalizing t with
  | _ depth ih =>
    refine h t fun g hg o ho => ih _ ?_ (g.fill o) rfl
    have hless := count_fill hg ho
    omega

/-- No group is left. -/
lemma not_hasGroup_of_mem_expandBraces {r : Text} (hr : r ∈ expandBraces t) : ¬ HasGroup r := by
  induction t using induction_on_groups with
  | h t ih =>
    rw [expandBraces_eq] at hr
    cases hg : group? t with
    | none =>
      rw [hg, List.mem_singleton] at hr
      rw [hr]
      exact group?_eq_none_iff.mp hg
    | some g =>
      rw [hg] at hr
      obtain ⟨o, ho, hr⟩ := List.mem_flatMap.mp hr
      exact ih g hg o ho hr

/-! ### Groups side by side -/

/-- A group without a brace inside, and what stands behind it up to the next one. -/
structure FlatGroup where
  /-- The text between the braces. -/
  inside : Text
  /-- The text behind the closing brace. -/
  behind : Text
  /-- There is no group inside. -/
  flat : Braceless inside

namespace FlatGroup

/-- The group with its braces, and what stands behind it. -/
def text (g : FlatGroup) : Text :=
  '\x7b' :: (g.inside ++ '\x7d' :: g.behind)

/-- The alternatives of the group. -/
def options (g : FlatGroup) : List Text :=
  g.inside.splitOn ','

/-- The group replaced by the alternative at a position, and what stands behind it. -/
def choose (k : ℕ) (g : FlatGroup) : Text :=
  g.options.getD k [] ++ g.behind

end FlatGroup

/-- A pattern whose groups stand side by side.  Other braces may stand between them, as long as they
make no group. -/
structure FlatPattern where
  /-- The text before the first group. -/
  head : Text
  /-- The groups, each with the text behind it. -/
  groups : List FlatGroup
  /-- There is no group but these. -/
  loose : ¬ HasGroup (head ++ groups.flatMap FlatGroup.behind)

namespace FlatPattern

/-- The pattern. -/
def text (q : FlatPattern) : Text :=
  q.head ++ q.groups.flatMap FlatGroup.text

/-- The pattern with each group replaced by the alternative at a position. -/
def choose (q : FlatPattern) (ks : List ℕ) : Text :=
  q.head ++ (List.zipWith FlatGroup.choose ks q.groups).flatten

end FlatPattern

/-- All lists of positions, one below each bound, in lexicographic order. -/
def positions : (bounds : List ℕ) → List (List ℕ)
  | [] => [[]]
  | n :: bounds => (List.range n).flatMap fun k => (positions bounds).map (k :: ·)

/-- The lists of positions are those that are below the bounds, one by one. -/
lemma mem_positions_iff {bounds ks : List ℕ} :
    ks ∈ positions bounds ↔ List.Forall₂ (· < ·) ks bounds := by
  induction bounds generalizing ks with
  | nil => simp [positions]
  | cons n bounds ih =>
    rw [positions, List.mem_flatMap]
    constructor
    · rintro ⟨k, hk, hmem⟩
      obtain ⟨ks, hks, rfl⟩ := List.mem_map.mp hmem
      exact .cons (List.mem_range.mp hk) (ih.mp hks)
    · intro hks
      cases hks with
      | cons hk hks =>
        exact ⟨_, List.mem_range.mpr hk, List.mem_map.mpr ⟨_, ih.mpr hks, rfl⟩⟩

/-- They are listed in lexicographic order, each once. -/
lemma pairwise_positions (bounds : List ℕ) : (positions bounds).Pairwise (· < ·) := by
  induction bounds with
  | nil => exact List.pairwise_singleton _ _
  | cons n bounds ih =>
    rw [positions, List.pairwise_flatMap]
    refine ⟨fun k _ => ?_, List.pairwise_lt_range.imp fun {k k'} hlt => ?_⟩
    · rw [List.pairwise_map]
      exact ih.imp fun hlt => List.cons_lt_cons_iff.mpr (Or.inr ⟨rfl, hlt⟩)
    · intro ks hks ks' hks'
      obtain ⟨_, -, rfl⟩ := List.mem_map.mp hks
      obtain ⟨_, -, rfl⟩ := List.mem_map.mp hks'
      exact List.cons_lt_cons_iff.mpr (Or.inl hlt)

/-- The groups are replaced from the left to the right, the positions of later ones running
faster. -/
lemma expandBraces_flat {head : Text} {groups : List FlatGroup}
    (h : ¬ HasGroup (head ++ groups.flatMap FlatGroup.behind)) :
    expandBraces (head ++ groups.flatMap FlatGroup.text)
      = (positions (groups.map (·.options.length))).map fun ks =>
          head ++ (List.zipWith FlatGroup.choose ks groups).flatten := by
  induction groups generalizing head with
  | nil =>
    rw [List.flatMap_nil, List.append_nil] at h ⊢
    rw [expandBraces_eq, group?_eq_none_iff.mpr h]
    simp [positions]
  | cons g groups ih =>
    have hbefore : ¬ HasGroup head := fun hhead => h (hhead.mono (List.prefix_append _ _).isInfix)
    have htext : head ++ (g :: groups).flatMap FlatGroup.text
        = head ++ '\x7b' ::
          (g.inside ++ '\x7d' :: (g.behind ++ groups.flatMap FlatGroup.text)) := by
      simp [FlatGroup.text]
    have hoptions : g.options = (List.range g.options.length).map fun k => g.options.getD k [] := by
      refine List.ext_getElem (by simp) fun k hk _ => ?_
      rw [List.getElem_map, List.getElem_range, List.getD_eq_getElem?_getD,
        List.getElem?_eq_getElem hk, Option.getD_some]
    -- An option has no braces, so the induction goes on with one in the place of its group.
    have hloose : ∀ o ∈ g.options,
        ¬ HasGroup (head ++ o ++ g.behind ++ groups.flatMap FlatGroup.behind) := by
      intro o ho
      have hplain : Braceless o := fun c hc => g.flat c ((Text.infix_of_mem_splitOn ho).subset hc)
      rw [List.append_assoc, hasGroup_insert_iff hplain]
      exact h
    rw [htext, expandBraces_eq, group?_append hbefore g.flat]
    calc g.options.flatMap (fun o =>
          expandBraces (head ++ o ++ (g.behind ++ groups.flatMap FlatGroup.text)))
        = g.options.flatMap fun o => (positions (groups.map (·.options.length))).map fun ks =>
            head ++ o ++ g.behind ++ (List.zipWith FlatGroup.choose ks groups).flatten := by
          refine List.flatMap_congr fun o ho => ?_
          rw [← List.append_assoc, ih (hloose o ho)]
      _ = _ := by
          conv_lhs => rw [hoptions]
          rw [List.map_cons, positions, List.flatMap_map, List.map_flatMap]
          refine List.flatMap_congr fun k _ => ?_
          rw [List.map_map]
          refine List.map_congr_left fun ks _ => ?_
          simp [FlatGroup.choose]

/-- A group stands inside another one: between a brace that is opened and the one that closes it
there are braces. -/
def HasNestedGroup (t : Text) : Prop :=
  ∃ x b y, t = x ++ '\x7b' :: (b ++ '\x7d' :: y) ∧ Balanced b ∧ ¬ Braceless b

/-- Whether a group stands inside another one is decided by a search through the parts of a text. -/
lemma hasNestedGroup_iff :
    HasNestedGroup t ↔ ∃ s ∈ t.tails, s.head? = some '\x7b' ∧ ∃ b ∈ s.tail.inits,
      Balanced b ∧ ¬ Braceless b ∧ (s.tail.drop b.length).head? = some '\x7d' := by
  constructor
  · rintro ⟨x, b, y, rfl, hb, hnot⟩
    exact ⟨_, (List.mem_tails _ _).mpr (List.suffix_append x _), rfl, b,
      (List.mem_inits _ _).mpr (List.prefix_append b _), hb, hnot, by simp⟩
  · rintro ⟨s, hs, hopen, b, hb, hbalanced, hnot, hclose⟩
    obtain ⟨x, rfl⟩ := (List.mem_tails _ _).mp hs
    obtain ⟨u, rfl⟩ := List.head?_eq_some_iff.mp hopen
    obtain ⟨v, rfl⟩ := (List.mem_inits _ _).mp hb
    rw [List.tail_cons, List.drop_left] at hclose
    obtain ⟨y, rfl⟩ := List.head?_eq_some_iff.mp hclose
    exact ⟨x, b, y, rfl, hbalanced, hnot⟩

instance (t : Text) : Decidable (HasNestedGroup t) :=
  decidable_of_iff _ hasNestedGroup_iff.symm

/-- A group inside another one is so in every text around them. -/
lemma HasNestedGroup.mono {s : Text} (h : HasNestedGroup s) (hst : s <:+: t) :
    HasNestedGroup t := by
  obtain ⟨x, b, y, rfl, hb, hnot⟩ := h
  obtain ⟨u, v, rfl⟩ := hst
  exact ⟨u ++ x, b, y ++ v, by simp, hb, hnot⟩

/-- Where a brace closes that does not belong to the groups, what stands before it is balanced. -/
lemma exists_balanced_before {head m y : Text} {groups : List FlatGroup} (hm : Braceless m)
    (h : head ++ groups.flatMap FlatGroup.behind = m ++ '\x7d' :: y) :
    ∃ b z, head ++ groups.flatMap FlatGroup.text = b ++ '\x7d' :: z ∧ Balanced b := by
  induction groups generalizing head m with
  | nil =>
    rw [List.flatMap_nil, List.append_nil] at h
    exact ⟨m, y, by rw [h, List.flatMap_nil, List.append_nil], hm.balanced⟩
  | cons g groups ih =>
    rcases Text.append_eq_append_cons h with ⟨m', rfl, hrest⟩ | ⟨u, rfl, -⟩
    · have hm' : Braceless m' := fun c hc => hm c (List.mem_append_right _ hc)
      have hhead : Braceless head := fun c hc => hm c (List.mem_append_left _ hc)
      obtain ⟨b, z, hbehind, hb⟩ := ih hm' hrest
      refine ⟨head ++ '\x7b' :: (g.inside ++ '\x7d' :: b), z, ?_,
        hhead.balanced.append (g.flat.balanced.group hb)⟩
      simp [FlatGroup.text, hbehind]
    · exact ⟨m, u ++ (g :: groups).flatMap FlatGroup.text, by simp, hm.balanced⟩

/-- Where no group stands inside another one, the groups stand side by side. -/
lemma exists_flatPattern (h : ¬ HasNestedGroup t) : ∃ q : FlatPattern, q.text = t := by
  induction hlength : t.length using Nat.strong_induction_on generalizing t with
  | _ n ih =>
    subst hlength
    cases hg : group? t with
    | none => exact ⟨⟨t, [], by simpa using group?_eq_none_iff.mp hg⟩, by simp [FlatPattern.text]⟩
    | some g =>
      have htext : t = g.before ++ '\x7b' :: (g.inside ++ '\x7d' :: g.behind) := by
        rw [← text_of_group? hg, Group.text, Group.fill]
        simp
      have hflat : Braceless g.inside := inside_of_group? hg
      have hbehind : ¬ HasNestedGroup g.behind := fun hnested =>
        h (hnested.mono (htext ▸ ⟨g.before ++ '\x7b' :: (g.inside ++ ['\x7d']), [], by simp⟩))
      obtain ⟨q, hq⟩ := ih g.behind.length (by rw [htext]; simp; omega) hbehind rfl
      have hloose : ¬ HasGroup (g.before ++ (q.head ++ q.groups.flatMap FlatGroup.behind)) := by
        rintro ⟨x, m, y, hplace, hm⟩
        have hcut : g.before ++ (q.head ++ q.groups.flatMap FlatGroup.behind)
            = (x ++ '\x7b' :: m) ++ '\x7d' :: y := by
          rw [hplace]
          simp
        rcases Text.append_eq_append_cons hcut with ⟨w, hw, hrest⟩ | ⟨w, hw, -⟩
        · rcases Text.append_eq_append_cons hw.symm with ⟨w', rfl, rfl⟩ | ⟨u, hu, rfl⟩
          · exact q.loose ⟨w', m, y, by rw [hrest]; simp, hm⟩
          · -- The two braces belong together, and the group stands between them.
            obtain ⟨b, z, hz, hb⟩ := exists_balanced_before
              (fun c hc => hm c (List.mem_append_right _ hc)) hrest
            have hfront : Braceless u := fun c hc => hm c (List.mem_append_left _ hc)
            refine h ⟨x, u ++ '\x7b' :: (g.inside ++ '\x7d' :: b), z, ?_,
              hfront.balanced.append (hflat.balanced.group hb), fun hnone => ?_⟩
            · rw [htext, ← hq, FlatPattern.text, hz, hu]
              simp
            · exact hnone.not_mem rfl (List.mem_append_right u List.mem_cons_self)
        · exact not_hasGroup_before hg ⟨x, m, w, by rw [hw]; simp, hm⟩
      have hloose' : ¬ HasGroup (g.before ++
          (⟨g.inside, q.head, hflat⟩ :: q.groups : List FlatGroup).flatMap FlatGroup.behind) :=
        hloose
      refine ⟨⟨g.before, ⟨g.inside, q.head, hflat⟩ :: q.groups, hloose'⟩, ?_⟩
      simp only [htext, ← hq, FlatPattern.text, FlatGroup.text, List.flatMap_cons]
      simp

end Glob

end DesignTokens
