import DesignTokens.Proofs.Style.DarkScope
import DesignTokens.Proofs.Style.Definition
import DesignTokens.Source.Basic

/-!
# What detection says about a style sheet

The theme of a style sheet whose name says nothing is the theme of its content: dark, if tokens are
defined under a dark scope.  That holds for each dark scope but a class on a host element
(`Theme.ofStylesheet_eq_dark_iff`).

A style sheet is taken up if a cheap look at it finds a definition.  It does so for each declaration
of a plainly ending name with a semicolon behind it, but the last declaration of a block may have no
semicolon, and other names are read as well (`declared_found_iff`).
-/

namespace DesignTokens

open Style

variable {name p t : Text} {file : Path}

/-! ### Themes -/

/-- The name of the file says nothing about a theme. -/
def Path.IsUnmarked (file : Path) : Prop :=
  ∀ theme : Theme, Text.occurs theme.label.toList (Text.lower file.name) = false

/-- A style sheet with an unmarked name has the theme of its content. -/
lemma Theme.ofStylesheet_of_unmarked (hfile : file.IsUnmarked) (t : Text) :
    Theme.ofStylesheet file t = if hasDarkScope t then .dark else .light := by
  rw [ofStylesheet]
  have hdark : Text.occurs "dark".toList (Text.lower file.name) = false := hfile .dark
  have hlight : Text.occurs "light".toList (Text.lower file.name) = false := hfile .light
  simp only [hdark, hlight, Bool.false_eq_true, if_false]

/-- Each dark class on a host element has style sheets that define tokens under it, and no dark
scope is found in them. -/
lemma exists_readsUnder_of_hostDarkClass (hp : p ∈ hostDarkClasses) :
    ∃ t, ReadsUnder t p ∧ hasDarkScope t = false := by
  have hall : ∀ p ∈ hostDarkClasses, ReadsUnder (p ++ "\x7b--a:1;\x7d".toList) p ∧
      hasDarkScope (p ++ "\x7b--a:1;\x7d".toList) = false := by
    decide +kernel
  exact ⟨_, hall p hp⟩

/-- A dark scope makes every style sheet with an unmarked name dark that defines tokens under it,
exactly when it is not a class on a host element. -/
theorem Theme.ofStylesheet_eq_dark_iff (hp : partScope? p = some (.themed .dark)) :
    (∀ (file : Path) (t : Text), file.IsUnmarked → ReadsUnder t p →
        Theme.ofStylesheet file t = .dark)
      ↔ p ∉ hostDarkClasses := by
  constructor
  · intro hall hhost
    obtain ⟨t, hreads, hnone⟩ := exists_readsUnder_of_hostDarkClass hhost
    have hfile : Path.IsUnmarked ⟨.none, ["a.css".toList]⟩ := by
      rintro (_ | _) <;> decide +kernel
    have hdark := hall _ t hfile hreads
    rw [ofStylesheet_of_unmarked hfile, hnone] at hdark
    cases hdark
  · intro hhost file t hfile hreads
    rw [ofStylesheet_of_unmarked hfile, if_pos (hasDarkScope_of_readsUnder hp hhost hreads)]

/-- A class in a selector list makes a style sheet dark. -/
theorem Theme.ofStylesheet_of_dark_class :
    Theme.ofStylesheet ⟨.none, ["a.css".toList]⟩ ":root, .dark-mode \x7b --a: 1; \x7d".toList
      = .dark :=
  (Theme.ofStylesheet_eq_dark_iff (p := ".dark-mode".toList) (by decide)).mpr (by decide) _ _
    (by rintro (_ | _) <;> decide +kernel) (by decide +kernel)

/-- A class on a host element does not. -/
theorem Theme.ofStylesheet_of_host_dark_class :
    let file : Path := ⟨.none, ["a.css".toList]⟩
    let t : Text := "html.dark \x7b --a: 1; \x7d".toList
    file.IsUnmarked ∧ partScope? "html.dark".toList = some (.themed .dark) ∧
      ReadsUnder t "html.dark".toList ∧ Theme.ofStylesheet file t = .light := by
  refine ⟨?_, by decide, by decide +kernel, by decide +kernel⟩
  rintro (_ | _) <;> decide +kernel

/-! ### Files with tokens -/

/-- A file that a source can read is taken up if its content is. -/
lemma Source.definesTokens_of_content {f : FileTree} {s : Source} {path : Path}
    (hcontent : s.content f = .ok (path, t)) (kind : SourceKind) :
    f.definesTokens path kind = .ok (kind.definesTokens t) := by
  have hread : f.readText path = .ok t := by
    rw [content] at hcontent
    split at hcontent
    · cases hcontent
    · split at hcontent
      · next hread =>
        cases hcontent
        exact hread
      · cases hcontent
      · cases hcontent
  rw [FileTree.definesTokens, hread]

/-- A style sheet with variables gives records. -/
lemma Source.exists_record_of_variable {f : FileTree} {s : Source} {path : Path}
    (hreader : s.reader = .stylesheet) (hcontent : s.content f = .ok (path, t))
    (hname : name ∈ (variablesOf .scopes t).keys) : ∃ r rs, s.load f = .ok (r :: rs) := by
  have hload : s.load f = .ok (s.stylesheetRecords path t) := by
    rw [load, hreader]
    simp only [hcontent]
    rfl
  have hsome : s.stylesheetRecords path t ≠ [] := by
    obtain ⟨entry, hentry, -⟩ := List.mem_map.mp hname
    rw [stylesheetRecords, resolved, ne_eq, List.map_eq_nil_iff, List.map_eq_nil_iff]
    exact List.ne_nil_of_mem hentry
  obtain ⟨r, rs, hrecords⟩ := List.exists_cons_of_ne_nil hsome
  exact ⟨r, rs, hrecords ▸ hload⟩

/-- The variables of a text are declared with a semicolon behind them or at the end of their block.
The declarations of the one kind or the other are found in all texts, and the files with them are
taken up, exactly if it is the kind with the semicolon and the name ends plainly. -/
theorem declared_found_iff (hname : ∃ t, name ∈ (variablesOf .scopes t).keys) :
    (∀ t, name ∈ (variablesOf .scopes t).keys ↔ ∃ ended, Declares .scopes ended t name) ∧
      ∀ ended, (∀ t, Declares .scopes ended t name → hasDefinition t ∧
          ∀ (f : FileTree) (s : Source) (path : Path), s.reader = .stylesheet →
            s.content f = .ok (path, t) →
              (∃ r rs, s.load f = .ok (r :: rs)) ∧ f.definesTokens path .stylesheet = .ok true)
        ↔ ended = true ∧ EndsPlainly name := by
  obtain ⟨t₀, ht₀⟩ := hname
  obtain ⟨hcustom, ended₀, hdeclares₀⟩ := mem_keys_variablesOf_iff.mp ht₀
  have hkeys : ∀ t,
      name ∈ (variablesOf .scopes t).keys ↔ ∃ ended, Declares .scopes ended t name := by
    intro t
    rw [mem_keys_variablesOf_iff, and_iff_right hcustom]
  refine ⟨hkeys, fun ended => ?_⟩
  rw [← hasDefinition_of_declares_iff hdeclares₀.isPropertyName]
  constructor
  · intro h t ht
    exact (h t ht).1
  · intro h t ht
    refine ⟨h t ht, fun f s path hreader hcontent => ⟨?_, ?_⟩⟩
    · exact Source.exists_record_of_variable hreader hcontent ((hkeys t).mpr ⟨ended, ht⟩)
    · rw [Source.definesTokens_of_content hcontent, SourceKind.definesTokens, h t ht]

/-- A declaration with a semicolon is found in every text. -/
theorem ended_declaration_found :
    (∃ t, "--a".toList ∈ (variablesOf .scopes t).keys) ∧
      ∀ t, Declares .scopes true t "--a".toList → hasDefinition t := by
  have hname : ∃ t, "--a".toList ∈ (variablesOf .scopes t).keys :=
    ⟨":root \x7b --a: 1px; \x7d".toList, by decide +kernel⟩
  have hplain : EndsPlainly "--a".toList :=
    ⟨[], ['a'], by decide, by decide, List.forall_mem_singleton.mpr (by decide +kernel)⟩
  exact ⟨hname, fun t ht => (((declared_found_iff hname).2 true).mpr ⟨rfl, hplain⟩ t ht).1⟩

/-- A declaration at the end of its block is read but not found. -/
theorem last_declaration_not_found :
    (variablesOf .scopes ":root \x7b --a: 1px \x7d".toList).keys = ["--a".toList] ∧
      hasDefinition ":root \x7b --a: 1px \x7d".toList = false := by
  decide +kernel

end DesignTokens
