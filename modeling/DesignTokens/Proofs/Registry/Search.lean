import DesignTokens.Proofs.Registry.Indices
import DesignTokens.Registry.Search
import Mathlib.Data.List.Infix
import Mathlib.Data.Prod.Lex
import Mathlib.Data.String.Basic

/-!
# A search is a ranked filter

A search tries its tests one after another, and the first one that a name passes decides its tier.
`MatchTier.Asks` says what each tier asks of a name without that order, and `Matches` what it takes
to be found at all; the reader of tiers decides both (`of?_eq_some_iff`).

The hits are then sorted, and equal hits keep their order.  Records of one name are in one tier, so
all of them are equal hits: a search lists the records of a name as its candidates do
(`filter_search`).  What the candidates are is said by `search_ranks_matches`, for every state of a
registry.
-/

namespace DesignTokens

/-- One text is found inside another one exactly where it stands in it. -/
lemma Text.occurs_iff {needle t : Text} : Text.occurs needle t = true ↔ needle <:+: t := by
  induction t with
  | nil => rw [occurs, List.isEmpty_iff, List.infix_nil]
  | cons c t ih =>
    rw [occurs, Bool.or_eq_true, List.isPrefixOf_iff_prefix, ih, List.infix_cons_iff]

namespace MatchTier

variable {keyword name : Text} {tier : MatchTier}

/-! ### Tiers -/

/-- A keyword has segments, and a name has all of them. -/
structure SharesSegments (keyword name : Text) : Prop where
  /-- Not all segments of the keyword are empty. -/
  exists_segment : ∃ s ∈ keyword.splitOn '-', s ≠ []
  /-- Those that are not empty are segments of the name. -/
  mem_segments : ∀ s ∈ keyword.splitOn '-', s ≠ [] → s ∈ name.splitOn '-'

/-- A lower-case name is found by a lower-case keyword. -/
def Matches (keyword name : Text) : Prop :=
  keyword <:+: name ∨ SharesSegments keyword name

/-- What a tier asks of a lower-case name. -/
def Asks (keyword name : Text) : MatchTier → Prop
  | .whole => name = keyword
  | .start => keyword <+: name ∧ name ≠ keyword
  | .inside => keyword <:+: name ∧ ¬ keyword <+: name
  | .segments => SharesSegments keyword name ∧ ¬ keyword <:+: name

/-- The search for segments decides whether a name has all those of the keyword. -/
lemma hasSegments_iff : hasSegments keyword name = true ↔ SharesSegments keyword name := by
  have hmem : ∀ s, s ∈ keywordSegments keyword ↔ s ∈ keyword.splitOn '-' ∧ s ≠ [] := by
    intro s
    rw [keywordSegments, List.mem_filter, Bool.not_eq_true', List.isEmpty_eq_false_iff]
  rw [hasSegments, Bool.and_eq_true, Bool.not_eq_true', List.isEmpty_eq_false_iff_exists_mem,
    List.all_eq_true]
  simp only [hmem, List.contains_iff_mem]
  constructor
  · rintro ⟨⟨s, hs, hne⟩, hall⟩
    exact ⟨⟨s, hs, hne⟩, fun s hs hne => hall s ⟨hs, hne⟩⟩
  · rintro ⟨⟨s, hs, hne⟩, hall⟩
    exact ⟨⟨s, hs, hne⟩, fun s hs => hall s hs.1 hs.2⟩

/-- The first test that a name passes is that of the one tier whose demands it meets. -/
lemma of?_eq_some_iff : of? keyword name = some tier ↔ tier.Asks keyword name := by
  by_cases hwhole : name = keyword
  · subst hwhole
    rw [of?, if_pos rfl]
    cases tier <;> simp [Asks]
  by_cases hstart : keyword <+: name
  · rw [of?, if_neg hwhole, if_pos (List.isPrefixOf_iff_prefix.mpr hstart)]
    cases tier <;> simp [Asks, hwhole, hstart, hstart.isInfix]
  have hprefix : ¬ keyword.isPrefixOf name = true := mt List.isPrefixOf_iff_prefix.mp hstart
  by_cases hinside : keyword <:+: name
  · rw [of?, if_neg hwhole, if_neg hprefix, if_pos (Text.occurs_iff.mpr hinside)]
    cases tier <;> simp [Asks, hwhole, hstart, hinside]
  have hoccurs : ¬ Text.occurs keyword name = true := mt Text.occurs_iff.mp hinside
  rw [of?, if_neg hwhole, if_neg hprefix, if_neg hoccurs]
  by_cases hsegments : SharesSegments keyword name
  · rw [if_pos (hasSegments_iff.mpr hsegments)]
    cases tier <;> simp [Asks, hwhole, hstart, hinside, hsegments]
  · rw [if_neg (mt hasSegments_iff.mp hsegments)]
    cases tier <;> simp [Asks, hwhole, hstart, hinside, hsegments]

/-- A name matches a keyword exactly if it has a tier. -/
lemma matches_iff : Matches keyword name ↔ (of? keyword name).isSome := by
  rw [Matches, Option.isSome_iff_exists]
  simp only [of?_eq_some_iff]
  constructor
  · intro h
    by_cases hinside : keyword <:+: name
    · by_cases hstart : keyword <+: name
      · by_cases hwhole : name = keyword
        · exact ⟨.whole, hwhole⟩
        · exact ⟨.start, hstart, hwhole⟩
      · exact ⟨.inside, hinside, hstart⟩
    · exact ⟨.segments, h.resolve_left hinside, hinside⟩
  · rintro ⟨tier, h⟩
    cases tier with
    | whole => exact Or.inl (h ▸ List.infix_refl _)
    | start => exact Or.inl h.1.isInfix
    | inside => exact Or.inl h.1
    | segments => exact Or.inr h.1

instance : Decidable (Matches keyword name) :=
  decidable_of_iff _ matches_iff.symm

end MatchTier

namespace TokenRecord

/-- The name of a record is found by a keyword, regardless of case. -/
def Matches (keyword : String) (r : TokenRecord) : Prop :=
  MatchTier.Matches (Text.lower keyword.toList) (Text.lower r.name.toList)

instance (keyword : String) (r : TokenRecord) : Decidable (r.Matches keyword) :=
  inferInstanceAs (Decidable (MatchTier.Matches _ _))

/-- The name of a record is in a tier, regardless of case. -/
def IsIn (keyword : String) (tier : MatchTier) (r : TokenRecord) : Prop :=
  tier.Asks (Text.lower keyword.toList) (Text.lower r.name.toList)

end TokenRecord

namespace Registry

variable {g : Registry} {keyword name : String} {theme : Option Theme}
  {a b : MatchTier × TokenRecord} {rs : List TokenRecord} {r : TokenRecord}

/-! ### Sorting -/

/-- Hits are in the lexicographic order of tier and name. -/
lemma rankedLe_iff :
    rankedLe a b = true ↔ toLex (a.1.rank, a.2.name) ≤ toLex (b.1.rank, b.2.name) := by
  rw [Prod.Lex.toLex_le_toLex, rankedLe, Bool.or_eq_true, Bool.and_eq_true, Bool.not_eq_true',
    decide_eq_true_eq, decide_eq_true_eq, decide_eq_false_iff_not, not_lt]

/-- The order of the hits is transitive. -/
lemma rankedLe_trans (a b c : MatchTier × TokenRecord) (hab : rankedLe a b) (hbc : rankedLe b c) :
    rankedLe a c := by
  rw [rankedLe_iff] at hab hbc ⊢
  exact hab.trans hbc

/-- Of any two hits one may stand before the other. -/
lemma rankedLe_total (a b : MatchTier × TokenRecord) : rankedLe a b || rankedLe b a := by
  rw [Bool.or_eq_true, rankedLe_iff, rankedLe_iff]
  exact le_total _ _

/-- Sorting keeps the order of those hits among which it makes no difference. -/
lemma filter_mergeSort {hits : List (MatchTier × TokenRecord)}
    {p : MatchTier × TokenRecord → Bool} (hp : ∀ a ∈ hits, ∀ b ∈ hits, p a → p b → rankedLe a b) :
    (hits.mergeSort rankedLe).filter p = hits.filter p := by
  have hequal : (hits.filter p).Pairwise fun a b => rankedLe a b = true := by
    refine List.pairwise_of_forall_mem_list fun a ha b hb => ?_
    obtain ⟨ha, hpa⟩ := List.mem_filter.mp ha
    obtain ⟨hb, hpb⟩ := List.mem_filter.mp hb
    exact hp a ha b hb hpa hpb
  have hsub : (hits.filter p).Sublist (hits.mergeSort rankedLe) :=
    List.sublist_mergeSort rankedLe_trans rankedLe_total hequal List.filter_sublist
  have hkept := hsub.filter p
  rw [List.filter_filter] at hkept
  simp only [Bool.and_self] at hkept
  have hperm := (List.mergeSort_perm hits rankedLe).filter p
  exact (hkept.eq_of_length hperm.length_eq.symm).symm

/-! ### Hits -/

/-- A record is a hit in the tier that its name asks for. -/
lemma mem_ranked?_iff {keyword : Text} {hit : MatchTier × TokenRecord} :
    ranked? keyword r = some hit
      ↔ hit.1.Asks keyword (Text.lower r.name.toList) ∧ hit.2 = r := by
  obtain ⟨tier, s⟩ := hit
  simp only [ranked?, Option.map_eq_some_iff, MatchTier.of?_eq_some_iff, Prod.mk.injEq]
  constructor
  · rintro ⟨_, h, rfl, rfl⟩
    exact ⟨h, rfl⟩
  · rintro ⟨h, rfl⟩
    exact ⟨tier, h, rfl, rfl⟩

/-- The records among the hits are the candidates that match. -/
lemma map_snd_hits (rs : List TokenRecord) :
    (rs.filterMap (ranked? (Text.lower keyword.toList))).map Prod.snd
      = rs.filter fun r => r.Matches keyword := by
  rw [List.map_filterMap, ← List.filterMap_eq_filter]
  refine List.filterMap_congr fun r _ => ?_
  have hmatches : r.Matches keyword
      ↔ (MatchTier.of? (Text.lower keyword.toList) (Text.lower r.name.toList)).isSome :=
    MatchTier.matches_iff
  rw [ranked?]
  cases htier : MatchTier.of? (Text.lower keyword.toList) (Text.lower r.name.toList) with
  | none =>
    rw [htier] at hmatches
    simp [Option.guard, hmatches]
  | some tier =>
    rw [htier] at hmatches
    simp [Option.guard, hmatches]

/-- A search finds the candidates that match, as often as they are candidates. -/
lemma search_perm (g : Registry) (keyword : String) (theme : Option Theme) :
    (g.search keyword theme).Perm ((g.candidates theme).filter fun r => r.Matches keyword) := by
  rw [search, ← map_snd_hits]
  exact (List.mergeSort_perm _ _).map _

/-- What a search finds is in the order of tiers, then of names. -/
lemma search_pairwise (g : Registry) (keyword : String) (theme : Option Theme) :
    (g.search keyword theme).Pairwise fun r s => ∃ i j, r.IsIn keyword i ∧ s.IsIn keyword j ∧
      (i.rank < j.rank ∨ i.rank = j.rank ∧ r.name ≤ s.name) := by
  rw [search, List.pairwise_map]
  refine List.Pairwise.imp_of_mem ?_ (List.pairwise_mergeSort rankedLe_trans rankedLe_total _)
  intro a b ha hb hab
  obtain ⟨r, -, ha⟩ := List.mem_filterMap.mp (List.mem_mergeSort.mp ha)
  obtain ⟨s, -, hb⟩ := List.mem_filterMap.mp (List.mem_mergeSort.mp hb)
  obtain ⟨htierA, rfl⟩ := mem_ranked?_iff.mp ha
  obtain ⟨htierB, rfl⟩ := mem_ranked?_iff.mp hb
  rw [rankedLe_iff, Prod.Lex.toLex_le_toLex] at hab
  exact ⟨a.1, b.1, htierA, htierB, hab⟩

/-- A search lists the records of a name in the order in which they are candidates: they are all in
one tier. -/
lemma filter_search (g : Registry) (keyword : String) (theme : Option Theme) (name : String) :
    (g.search keyword theme).filter (fun r => r.name = name)
      = (g.candidates theme).filter fun r => r.name = name ∧ r.Matches keyword := by
  have hsorted : ∀ hits : List (MatchTier × TokenRecord),
      (hits.map Prod.snd).filter (fun r => r.name = name)
        = (hits.filter fun hit => hit.2.name = name).map Prod.snd := by
    intro hits
    rw [List.filter_map]
    rfl
  rw [search, hsorted, filter_mergeSort, ← hsorted, map_snd_hits, List.filter_filter]
  · simp only [Bool.decide_and]
  · intro a ha b hb hnameA hnameB
    rw [decide_eq_true_eq] at hnameA hnameB
    obtain ⟨r, -, ha⟩ := List.mem_filterMap.mp ha
    obtain ⟨s, -, hb⟩ := List.mem_filterMap.mp hb
    obtain ⟨htierA, rfl⟩ := mem_ranked?_iff.mp ha
    obtain ⟨htierB, rfl⟩ := mem_ranked?_iff.mp hb
    rw [hnameA, ← MatchTier.of?_eq_some_iff] at htierA
    rw [hnameB, ← MatchTier.of?_eq_some_iff, htierA, Option.some.injEq] at htierB
    rw [rankedLe_iff, htierB, hnameA, hnameB]

/-- Without a theme, the candidates are the records of each name in turn. -/
lemma candidates_none (g : Registry) :
    g.candidates none = g.audit.keys.flatMap g.getAll := by
  rw [candidates, OrderedMap.values, OrderedMap.keys, List.flatMap_map, List.flatMap_def]
  congr 1
  refine List.map_congr_left fun e he => ?_
  rw [getAll, OrderedMap.mem_entries_iff.mp he, Option.getD_some]

/-- In a list without repetitions, a single entry contributes what only one entry contributes. -/
lemma flatMap_ite_eq {names : List String} (hnodup : names.Nodup) (hmem : name ∈ names)
    (rs : List TokenRecord) : (names.flatMap fun n => if n = name then rs else []) = rs := by
  obtain ⟨before, behind, rfl⟩ := List.append_of_mem hmem
  obtain ⟨-, hbehind, hbefore⟩ := List.nodup_append.mp hnodup
  have hnone : ∀ ns : List String, (∀ n ∈ ns, n ≠ name) →
      (ns.flatMap fun n => if n = name then rs else []) = [] := by
    intro ns hns
    rw [List.flatMap_eq_nil_iff]
    exact fun n hn => if_neg (hns n hn)
  rw [List.flatMap_append, List.flatMap_cons, if_pos rfl,
    hnone before fun n hn => hbefore n hn name List.mem_cons_self,
    hnone behind fun n hn => fun heq => (List.nodup_cons.mp hbehind).1 (heq ▸ hn),
    List.nil_append, List.append_nil]

/-- Among the records of all names in turn, those of a name are in the order of registration. -/
lemma Trail.filter_candidates (hg : g.Trail rs) (name : String) :
    (g.candidates none).filter (fun r => r.name = name) = rs.filter fun r => r.name = name := by
  have hturn : ∀ n, (g.getAll n).filter (fun r => r.name = name)
      = if n = name then rs.filter (fun r => r.name = name) else [] := by
    intro n
    rw [hg.getAll_eq, List.filter_filter]
    split
    · next hn => simp [hn]
    · next hn =>
      rw [List.filter_eq_nil_iff]
      rintro r - hr
      simp only [Bool.and_eq_true, decide_eq_true_eq] at hr
      exact hn (hr.2.symm.trans hr.1)
  rw [candidates_none, List.filter_flatMap]
  simp only [hturn]
  by_cases hmem : name ∈ g.audit.keys
  · exact flatMap_ite_eq g.audit.keys_nodup hmem _
  · have hnone : rs.filter (fun r => r.name = name) = [] := by
      rw [List.filter_eq_nil_iff]
      intro r hr hname
      rw [hg.keys_eq, distinctNames, List.mem_eraseDups] at hmem
      exact hmem (List.mem_map.mpr ⟨r, hr, of_decide_eq_true hname⟩)
    simp [hnone]

/-- In every state of a registry, for every keyword, with a theme and without: a search finds the
active records of the theme, or else the records of all names in turn, that match the keyword, as
often as they stand there; it lists them tier by tier, in each tier by name, and the records of one
name in the order in which they stand there, which without a theme is that of their registration. -/
theorem search_ranks_matches (ops : List Operation) (keyword : String) (theme : Option Theme) :
    let g := run ops
    let found := g.search keyword theme
    let looked := match theme with
      | some t => g.ofTheme t
      | none => g.names.flatMap g.getAll
    found.Perm (looked.filter fun r => r.Matches keyword) ∧
    found.Pairwise (fun r s => ∃ i j, r.IsIn keyword i ∧ s.IsIn keyword j ∧
      (i.rank < j.rank ∨ i.rank = j.rank ∧ r.name ≤ s.name)) ∧
    (∀ name, found.filter (fun r => r.name = name)
      = looked.filter fun r => r.name = name ∧ r.Matches keyword) ∧
    ∀ name, (g.search keyword none).filter (fun r => r.name = name)
      = (registrations ops).filter fun r => r.name = name ∧ r.Matches keyword := by
  intro g found looked
  have htrail : g.Trail (registrations ops) := trail_run ops
  have hlooked : g.candidates theme = looked := by
    cases theme with
    | some t => rfl
    | none => rw [candidates_none, htrail.keys_eq, ← htrail.names_eq]
  refine ⟨hlooked ▸ search_perm g keyword theme, search_pairwise g keyword theme,
    fun name => hlooked ▸ filter_search g keyword theme name, fun name => ?_⟩
  have hcandidates := congrArg (List.filter fun r => decide (r.Matches keyword))
    (htrail.filter_candidates name)
  rw [List.filter_filter, List.filter_filter] at hcandidates
  simp only [filter_search, Bool.decide_and, Bool.and_comm (decide (_ = name)), hcandidates]

end Registry

end DesignTokens
