import DesignTokens.Proofs.Style.Reference
import DesignTokens.Proofs.Style.Rule
import DesignTokens.Proofs.Text.Stretch

/-!
# Dark scopes in accepted selectors

A selector part is compared with the accepted scopes after its white space has been collapsed, and a
dark scope is looked for in the text as it stands.  An accepted part stands in the text with white
space, commas or braces around it (`exists_of_readsUnder`), and a theme attribute is found wherever
it stands, whatever its white space.  A theme class is found only if no name character comes before
it: that is so where the class is the whole part, but not behind a host element.
-/

namespace DesignTokens

namespace Style

variable {t rest p q s x y raw : Text} {theme : Theme} {previous : Option Char}

/-! ### The accepted dark scopes -/

/-- The dark theme classes. -/
def darkClasses : List Text :=
  ([] :: themeEndings).map (".dark".toList ++ ·)

/-- The dark theme classes on host elements. -/
def hostDarkClasses : List Text :=
  hostElements.flatMap fun host => darkClasses.map (host ++ ·)

/-- An accepted part under the dark theme is a class, alone or on a host element, or an
attribute. -/
lemma darkPart_cases (hp : partScope? p = some (.themed .dark)) :
    p ∈ darkClasses ∨ p ∈ hostDarkClasses ∨
      ∃ host q, (host = [] ∨ host ∈ hostElements) ∧ p = host ++ q ∧
        themeAttribute? q = some (.dark, []) := by
  obtain ⟨host, hhost, hsplit⟩ := behindHost_append p
  rw [partScope?] at hp
  split at hp
  · cases hp
  · split at hp
    · next theme rest hclass =>
      split at hp
      · next hrest =>
        cases hp
        have hdark : behindHost p ∈ darkClasses := by
          rw [themeClass?_eq_some_iff.mp hclass]
          refine List.mem_map.mpr ⟨rest, ?_, rfl⟩
          rwa [List.mem_cons]
        rcases hhost with rfl | hhost
        · exact Or.inl (hsplit ▸ hdark)
        · refine Or.inr (Or.inl ?_)
          rw [hsplit]
          exact List.mem_flatMap.mpr ⟨host, hhost, List.mem_map_of_mem hdark⟩
      · cases hp
    · next theme rest _ hattribute =>
      split at hp
      · next hrest =>
        cases hp
        exact Or.inr (Or.inr ⟨host, behindHost p, hhost, hsplit, hrest ▸ hattribute⟩)
      · cases hp
    · cases hp

/-! ### Where a dark scope is found -/

/-- No name goes on behind the text. -/
def EndsApart (x : Text) : Prop :=
  x.getLast?.any isNameChar = false

/-- No name goes on at the front of the text. -/
def BeginsApart (y : Text) : Prop :=
  y.head?.any isNameChar = false

/-- Behind two texts no name goes on if none does behind either. -/
lemma EndsApart.append (hx : EndsApart x) (hy : EndsApart y) : EndsApart (x ++ y) := by
  rw [EndsApart, List.getLast?_append]
  cases hlast : y.getLast? with
  | none => exact hx
  | some c =>
    rw [EndsApart, hlast] at hy
    exact hy

/-- At the front of two texts no name goes on if none does at the front of either. -/
lemma BeginsApart.append (hx : BeginsApart x) (hy : BeginsApart y) : BeginsApart (x ++ y) := by
  cases x with
  | nil => exact hy
  | cons c x => exact hx

/-- No name goes on behind white space. -/
lemma endsApart_of_blank (hx : ∀ c ∈ x, isBlank c) : EndsApart x := by
  rw [EndsApart, Option.any_eq_false]
  intro c hc
  exact not_isNameChar_of_blank (hx c (List.mem_of_getLast? hc))

/-- No name goes on in white space. -/
lemma beginsApart_of_blank (hy : ∀ c ∈ y, isBlank c) : BeginsApart y := by
  rw [BeginsApart, Option.any_eq_false]
  intro c hc
  exact not_isNameChar_of_blank (hy c (List.mem_of_head? hc))

/-- A part of a selector list stands in the list with white space or commas around it. -/
lemma exists_of_mem_selectorParts (hp : p ∈ selectorParts (Text.collapse raw)) :
    ∃ x s y, raw = x ++ s ++ y ∧ EndsApart x ∧ BeginsApart y ∧ Text.Stretched p s := by
  obtain ⟨part, hpart, rfl⟩ := List.mem_map.mp hp
  obtain ⟨x₀, y₀, hlist, hcut⟩ := Text.exists_of_mem_splitOn hpart
  obtain ⟨a, u, b, rfl, ha, hb, -, hu⟩ := Text.exists_stretched_collapse part
  obtain ⟨front, w, behind, rfl, hfront, hbehind, -, hw⟩ := Text.exists_stretched_collapse raw
  rw [hlist] at hw
  obtain ⟨w, y₁, rfl, hw, hy₁⟩ := hw.split
  obtain ⟨x₁, w, rfl, hx₁, hw⟩ := hw.split
  obtain ⟨w, b₁, rfl, hw, hb₁⟩ := hw.split
  obtain ⟨a₁, s, rfl, ha₁, hs⟩ := hw.split
  have hx : EndsApart x₁ := by
    rcases hcut.front with rfl | ⟨x', rfl⟩
    · rw [hx₁.eq List.not_mem_nil]
      rfl
    · obtain ⟨x₂, comma, rfl, -, hcomma⟩ := hx₁.split
      rw [hcomma.eq (by decide), EndsApart, List.getLast?_concat]
      rfl
  have hy : BeginsApart y₁ := by
    rcases hcut.behind with rfl | ⟨y', rfl⟩
    · rw [hy₁.eq List.not_mem_nil]
      rfl
    · rw [← List.singleton_append] at hy₁
      obtain ⟨comma, y₂, rfl, hcomma, -⟩ := hy₁.split
      rw [hcomma.eq (by decide)]
      rfl
  refine ⟨front ++ (x₁ ++ a₁), s, b₁ ++ (y₁ ++ behind), by simp only [List.append_assoc], ?_, ?_,
    hu.trans hs⟩
  · exact (endsApart_of_blank hfront).append (hx.append (endsApart_of_blank (ha₁.blank ha)))
  · exact (beginsApart_of_blank (hb₁.blank hb)).append (hy.append (beginsApart_of_blank hbehind))

/-- A dark scope is found wherever it stands. -/
lemma darkScopeFrom_append (hne : t ≠ []) (h : darkScopeAt (x.getLast?.or previous) t) :
    darkScopeFrom previous (x ++ t) := by
  induction x generalizing previous with
  | nil =>
    obtain ⟨c, t, rfl⟩ := List.exists_cons_of_ne_nil hne
    rw [List.nil_append, darkScopeFrom, Bool.or_eq_true]
    exact Or.inl h
  | cons c x ih =>
    rw [List.cons_append, darkScopeFrom, Bool.or_eq_true]
    refine Or.inr (ih ?_)
    rw [List.getLast?_cons] at h
    cases hlast : x.getLast? with
    | none => rwa [hlast] at h
    | some d => rwa [hlast] at h

/-- A dark class with no name going on around it is a dark scope. -/
lemma darkScopeAt_of_class (hp : p ∈ darkClasses) (hprevious : previous.any isNameChar = false)
    (hy : BeginsApart y) : darkScopeAt previous (p ++ y) := by
  obtain ⟨ending, hending, rfl⟩ := List.mem_map.mp hp
  have hclass : themeClass? (".dark".toList ++ ending ++ y) = some (.dark, ending ++ y) := by
    rw [themeClass?_eq_some_iff, List.append_assoc]
    rfl
  have hbehind : y ∈ (ending ++ y) ::
      themeEndings.filterMap fun e => Text.after? e (ending ++ y) := by
    rw [List.mem_cons] at hending
    rcases hending with rfl | hending
    · exact List.mem_cons_self
    · refine List.mem_cons_of_mem _ (List.mem_filterMap.mpr ⟨ending, hending, ?_⟩)
      exact Text.after?_eq_some_iff.mpr rfl
  have happart : ((ending ++ y) :: themeEndings.filterMap fun e => Text.after? e (ending ++ y)).any
      fun behind => !(behind.head?.any isNameChar) := by
    refine List.any_eq_true.mpr ⟨y, hbehind, ?_⟩
    rw [Bool.not_eq_true']
    exact hy
  rw [darkScopeAt, hclass]
  simp only [hprevious, happart, Bool.not_false, Bool.and_self, Bool.or_true]

/-- An attribute of the dark theme is a dark scope, whatever stands before it. -/
lemma darkScopeAt_of_attribute (h : themeAttribute? t = some (.dark, rest)) :
    darkScopeAt previous t := by
  rw [darkScopeAt, h]
  rfl

/-- White space may be stretched in a theme attribute, and anything may stand behind it. -/
lemma themeAttribute?_of_stretched (h : themeAttribute? q = some (theme, []))
    (hs : Text.Stretched q s) (y : Text) : themeAttribute? (s ++ y) = some (theme, y) := by
  obtain ⟨b₁, b₂, q₁, q₂, hb₁, hb₂, hq₁, hq₂, rfl⟩ := themeAttribute?_eq_some_iff.mp h
  obtain ⟨opening, s, rfl, hopening, hs⟩ := hs.split
  obtain ⟨c₁, s, rfl, hc₁, hs⟩ := hs.split
  obtain ⟨equals, s, rfl, hequals, hs⟩ := hs.split
  obtain ⟨c₂, s, rfl, hc₂, hs⟩ := hs.split
  have hword : s = q₁ ++ (theme.label.toList ++ (q₂ ++ ("]".toList ++ []))) := by
    refine hs.eq ?_
    simp only [List.mem_append, not_or]
    refine ⟨?_, ?_, ?_, by decide, List.not_mem_nil⟩
    · rcases hq₁ with rfl | rfl | rfl <;> decide
    · cases theme <;> decide
    · rcases hq₂ with rfl | rfl | rfl <;> decide
  refine themeAttribute?_eq_some_iff.mpr
    ⟨c₁, c₂, q₁, q₂, hc₁.blank hb₁, hc₂.blank hb₂, hq₁, hq₂, ?_⟩
  rw [hopening.eq (by decide), hequals.eq (by decide), hword]
  simp only [List.append_assoc, List.nil_append]

/-! ### Rules under a part -/

/-- The text has a rule that defines tokens under an accepted selector list with the part in it. -/
def ReadsUnder (t p : Text) : Prop :=
  ∃ r ∈ rules t, Acceptance.scopes.selector r.selector ∧ r.customProperties ≠ [] ∧
    p ∈ selectorParts r.selector

instance : Decidable (ReadsUnder t p) :=
  inferInstanceAs (Decidable (∃ r ∈ rules t, Acceptance.scopes.selector r.selector ∧
    r.customProperties ≠ [] ∧ p ∈ selectorParts r.selector))

/-- A part under which a rule is read stands in the text, and no name goes on around it. -/
lemma exists_of_readsUnder (h : ReadsUnder t p) :
    ∃ x s y, removeComments t = x ++ (s ++ y) ∧ EndsApart x ∧ BeginsApart y ∧
      Text.Stretched p s := by
  obtain ⟨r, hr, -, -, hp⟩ := h
  obtain ⟨before, raw, block, behind, hplace, hcontent⟩ := exists_mem_rules_iff.mp ⟨r, hr, rfl⟩
  obtain ⟨-, -, hselector⟩ := blockContent?_eq_some_iff.mp hcontent
  rw [show r.selector = Text.collapse raw from (congrArg Prod.fst hselector).symm] at hp
  obtain ⟨x, s, y, rfl, hx, hy, hs⟩ := exists_of_mem_selectorParts hp
  have hbefore : EndsApart before := by
    rcases hplace.front with rfl | ⟨f, rfl | rfl⟩
    · rfl
    · rw [EndsApart, List.getLast?_concat]
      rfl
    · rw [EndsApart, List.getLast?_concat]
      rfl
  refine ⟨before ++ x, s, y ++ '\x7b' :: (block ++ '\x7d' :: behind), ?_, hbefore.append hx,
    hy.append rfl, hs⟩
  rw [hplace.text]
  simp only [List.append_assoc]

/-- A text that defines tokens under a dark scope has a dark scope in it, unless that scope is a
class on a host element. -/
theorem hasDarkScope_of_readsUnder (hp : partScope? p = some (.themed .dark))
    (hhost : p ∉ hostDarkClasses) (h : ReadsUnder t p) : hasDarkScope t := by
  obtain ⟨x, s, y, ht, hx, hy, hs⟩ := exists_of_readsUnder h
  rw [hasDarkScope, ht]
  rcases darkPart_cases hp with hclass | hclass | ⟨host, q, hhost, rfl, hattribute⟩
  · have hspace : ∀ p ∈ darkClasses, ' ' ∉ p ∧ p ≠ [] := by decide
    rw [hs.eq (hspace p hclass).1]
    refine darkScopeFrom_append (List.append_ne_nil_of_left_ne_nil (hspace p hclass).2 y) ?_
    rw [Option.or_none]
    exact darkScopeAt_of_class hclass hx hy
  · exact absurd hclass hhost
  · obtain ⟨s₁, s₂, rfl, -, hs₂⟩ := hs.split
    have hfound := themeAttribute?_of_stretched hattribute hs₂ y
    have hne : s₂ ++ y ≠ [] := by
      intro hnil
      rw [hnil] at hfound
      cases hfound
    rw [List.append_assoc, ← List.append_assoc]
    exact darkScopeFrom_append hne (darkScopeAt_of_attribute hfound)

end Style

end DesignTokens
