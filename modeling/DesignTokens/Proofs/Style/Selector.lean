import DesignTokens.Proofs.Text.Words
import DesignTokens.Style.Selector

/-!
# What the readers of selectors read

The readers of selectors compare texts with fixed words, so what they read is known but for its
white space and its quotes.  A character that is in none of the words is still there when the words
are read.  In particular no selector list with a semicolon is a list of root selectors and theme
scopes, and no blank selector is accepted.
-/

namespace DesignTokens

namespace Style

variable {t rest part q selector : Text} {c : Char} {theme : Theme}

/-! ### Words of a selector -/

/-- The elements on which a theme scope may stand. -/
def hostElements : List Text :=
  ["html".toList, "body".toList, ":root".toList]

/-- What is dropped in front of a scope is a host element, if anything. -/
lemma behindHost_append (p : Text) :
    ∃ host, (host = [] ∨ host ∈ hostElements) ∧ p = host ++ behindHost p := by
  unfold behindHost
  split
  · next hhtml =>
    exact ⟨_, Or.inr (by decide), Text.after?_eq_some_iff.mp hhtml⟩
  · next _ hbody =>
    exact ⟨_, Or.inr (by decide), Text.after?_eq_some_iff.mp hbody⟩
  · next _ _ hroot =>
    exact ⟨_, Or.inr (by decide), Text.after?_eq_some_iff.mp hroot⟩
  · exact ⟨[], Or.inl rfl, rfl⟩

/-- The word of a theme is its label. -/
lemma themeWord?_eq_some_iff :
    themeWord? t = some (theme, rest) ↔ t = theme.label.toList ++ rest := by
  constructor
  · intro h
    unfold themeWord? at h
    split at h
    · next hdark =>
      cases h
      exact Text.after?_eq_some_iff.mp hdark
    · next hlight =>
      cases h
      exact Text.after?_eq_some_iff.mp hlight
    · cases h
  · rintro rfl
    cases theme <;> rfl

/-- The class of a theme is a dot and its label. -/
lemma themeClass?_eq_some_iff :
    themeClass? t = some (theme, rest) ↔ t = '.' :: (theme.label.toList ++ rest) := by
  rw [themeClass?, Option.bind_eq_some_iff]
  constructor
  · rintro ⟨u, hdot, hword⟩
    rw [Text.after?_eq_some_iff.mp hdot, themeWord?_eq_some_iff.mp hword]
    rfl
  · rintro rfl
    exact ⟨_, Text.after?_eq_some_iff.mpr rfl, themeWord?_eq_some_iff.mpr rfl⟩

/-- What may stand around a theme in an attribute: a quote, or nothing. -/
def IsQuoting (q : Text) : Prop :=
  q = [] ∨ q = ['\x22'] ∨ q = ['\x27']

/-- What is dropped in front of a theme is a quote, if anything. -/
lemma behindQuote_append (t : Text) : ∃ q, IsQuoting q ∧ t = q ++ behindQuote t := by
  unfold behindQuote
  split
  · exact ⟨['\x22'], Or.inr (Or.inl rfl), rfl⟩
  · exact ⟨['\x27'], Or.inr (Or.inr rfl), rfl⟩
  · exact ⟨[], Or.inl rfl, rfl⟩

/-- A quote is dropped in front of anything that is no quote. -/
lemma behindQuote_of_quoting (hq : IsQuoting q) (hc : c ≠ '\x22' ∧ c ≠ '\x27') (t : Text) :
    behindQuote (q ++ c :: t) = c :: t := by
  rcases hq with rfl | rfl | rfl
  · unfold behindQuote
    split
    · next h => exact absurd (List.cons.inj h).1 hc.1
    · next h => exact absurd (List.cons.inj h).1 hc.2
    · rfl
  · rfl
  · rfl

/-- A theme attribute has white space around its equals sign, and perhaps quotes. -/
lemma themeAttribute?_eq_some_iff :
    themeAttribute? t = some (theme, rest) ↔ ∃ b₁ b₂ q₁ q₂, (∀ c ∈ b₁, isBlank c) ∧
      (∀ c ∈ b₂, isBlank c) ∧ IsQuoting q₁ ∧ IsQuoting q₂ ∧
      t = "[data-theme".toList ++ (b₁ ++ ("=".toList ++
        (b₂ ++ (q₁ ++ (theme.label.toList ++ (q₂ ++ ("]".toList ++ rest))))))) := by
  constructor
  · intro h
    simp only [themeAttribute?, Option.bind_eq_bind, Option.bind_eq_some_iff, Prod.exists,
      Option.pure_def, Option.some.injEq, Prod.mk.injEq] at h
    obtain ⟨u, hopen, v, hequals, theme', w, hword, rest', hclose, rfl, rfl⟩ := h
    rw [Text.after?_eq_some_iff] at hopen hequals hclose
    rw [themeWord?_eq_some_iff] at hword
    obtain ⟨b₁, hb₁, hu⟩ := Text.exists_stripLeft u
    obtain ⟨b₂, hb₂, hv⟩ := Text.exists_stripLeft v
    obtain ⟨q₁, hq₁, hfirst⟩ := behindQuote_append (Text.stripLeft v)
    obtain ⟨q₂, hq₂, hsecond⟩ := behindQuote_append w
    refine ⟨b₁, b₂, q₁, q₂, hb₁, hb₂, hq₁, hq₂, ?_⟩
    rw [hopen, hu, hequals, hv, hfirst, hword, hsecond, hclose]
  · rintro ⟨b₁, b₂, q₁, q₂, hb₁, hb₂, hq₁, hq₂, rfl⟩
    have hafter : ∀ lead u : Text, Text.after? lead (lead ++ u) = some u :=
      fun _ _ => Text.after?_eq_some_iff.mpr rfl
    -- What the theme's word begins with is neither a blank nor a quote.
    obtain ⟨l, ls, hlabel, hblank, hquote⟩ : ∃ l ls, theme.label.toList = l :: ls ∧
        isBlank l = false ∧ l ≠ '\x22' ∧ l ≠ '\x27' := by
      cases theme
      · exact ⟨'l', "ight".toList, by decide, by decide, by decide⟩
      · exact ⟨'d', "ark".toList, by decide, by decide, by decide⟩
    have hequals : ∀ u : Text, Text.stripLeft (b₁ ++ ("=".toList ++ u)) = "=".toList ++ u := by
      intro u
      refine Text.stripLeft_append_of_blank hb₁ ?_
      rintro c ⟨⟩
      decide
    have hvalue : ∀ u : Text, behindQuote (Text.stripLeft (b₂ ++ (q₁ ++ (theme.label.toList ++ u))))
        = theme.label.toList ++ u := by
      intro u
      rw [hlabel, Text.stripLeft_append_of_blank hb₂, List.cons_append,
        behindQuote_of_quoting hq₁ hquote]
      rcases hq₁ with rfl | rfl | rfl <;> rintro c ⟨⟩
      · exact hblank
      · decide
      · decide
    have hclose : ∀ u : Text, behindQuote (q₂ ++ ("]".toList ++ u)) = "]".toList ++ u :=
      behindQuote_of_quoting hq₂ (by decide)
    have hword : ∀ u : Text, themeWord? (theme.label.toList ++ u) = some (theme, u) :=
      fun _ => themeWord?_eq_some_iff.mpr rfl
    simp only [themeAttribute?, Option.bind_eq_bind, Option.bind_some, Option.pure_def, hafter,
      hequals, hvalue, hword, hclose]

/-! ### Semicolons -/

/-- A semicolon is still there behind a host element. -/
lemma mem_behindHost (hmem : ';' ∈ part) : ';' ∈ behindHost part := by
  obtain ⟨host, hhost, hsplit⟩ := behindHost_append part
  rw [hsplit] at hmem
  refine (List.mem_append.mp hmem).resolve_left ?_
  rcases hhost with rfl | hhost
  · exact List.not_mem_nil
  · have hnone : ∀ host ∈ hostElements, ';' ∉ host := by decide
    exact hnone host hhost

/-- A semicolon is still there behind a class. -/
lemma mem_of_themeClass? (h : themeClass? t = some (theme, rest)) (hmem : ';' ∈ t) :
    ';' ∈ rest := by
  have hlabel : ';' ∉ '.' :: theme.label.toList := by cases theme <;> decide
  rw [themeClass?_eq_some_iff.mp h, ← List.cons_append] at hmem
  exact (List.mem_append.mp hmem).resolve_left hlabel

/-- A semicolon is still there behind an attribute. -/
lemma mem_of_themeAttribute? (h : themeAttribute? t = some (theme, rest)) (hmem : ';' ∈ t) :
    ';' ∈ rest := by
  obtain ⟨b₁, b₂, q₁, q₂, hb₁, hb₂, hq₁, hq₂, rfl⟩ := themeAttribute?_eq_some_iff.mp h
  have hblank : ∀ b : Text, (∀ c ∈ b, isBlank c) → ';' ∉ b := by
    intro b hb hc
    have hsemicolon := hb _ hc
    revert hsemicolon
    decide
  have hquote : ∀ q, IsQuoting q → ';' ∉ q := by
    rintro q (rfl | rfl | rfl) <;> decide
  have hlabel : ';' ∉ theme.label.toList := by cases theme <;> decide
  have hopening : ';' ∉ "[data-theme".toList := by decide
  have hequals : ';' ∉ "=".toList := by decide
  have hclosing : ';' ∉ "]".toList := by decide
  simpa only [List.mem_append, hblank b₁ hb₁, hblank b₂ hb₂, hquote q₁ hq₁, hquote q₂ hq₂, hlabel,
    hopening, hequals, hclosing, false_or] using hmem

/-- A part with a semicolon is no scope. -/
lemma partScope?_eq_none (hmem : ';' ∈ part) : partScope? part = none := by
  have hroot : part ∉ rootSelectors := by
    have hnone : ∀ p ∈ rootSelectors, ';' ∉ p := by decide
    exact fun h => hnone part h hmem
  have hbehind := mem_behindHost hmem
  have hending : ∀ p ∈ themeEndings, ';' ∉ p := by decide
  rw [partScope?, if_neg hroot]
  split
  · next hclass =>
    have hrest := mem_of_themeClass? hclass hbehind
    refine if_neg ?_
    rintro (rfl | h)
    · cases hrest
    · exact hending _ h hrest
  · next hattribute =>
    have hrest := mem_of_themeAttribute? hattribute hbehind
    refine if_neg ?_
    rintro rfl
    cases hrest
  · rfl

/-- A selector list with a semicolon is not accepted as one of scopes. -/
theorem selector_scopes_eq_false (hmem : ';' ∈ selector) :
    Acceptance.scopes.selector selector = false := by
  have hcut : ((';' : Char) == ',') = false := by decide
  obtain ⟨p, hp, hpmem⟩ := Text.exists_mem_splitOnP (f := (· == ',')) hmem hcut
  rw [Acceptance.selector, List.all_eq_false]
  refine ⟨Text.collapse p, List.mem_map_of_mem hp, ?_⟩
  rw [Acceptance.part, partScope?_eq_none (Text.mem_collapse hpmem (by decide))]
  simp

/-- The empty selector is not accepted. -/
lemma selector_nil (a : Acceptance) : a.selector [] = false := by
  have hparts : selectorParts [] = [[]] := by
    rw [selectorParts, List.splitOn_nil, List.map_singleton, Text.collapse_of_blank (by simp)]
  rw [Acceptance.selector, hparts]
  rfl

end Style

end DesignTokens
