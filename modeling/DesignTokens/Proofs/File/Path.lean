import DesignTokens.Proofs.File.Tree
import DesignTokens.Proofs.Text.Split

/-!
# Spelling a path and reading it back

A path whose components could have been read from a text is the one that is read from its own text
(`Path.ofString_toString`).  This holds of every path that was read from a string, and of every path
that leads to something in a well formed tree.
-/

namespace DesignTokens

variable {p : Path} {parts : List Text} {n : Text}

/-! ### Components that can be read -/

/-- A component that can be read from a text. -/
def IsPart (n : Text) : Prop :=
  n ≠ [] ∧ n ≠ ['.'] ∧ '/' ∉ n

instance : Decidable (IsPart n) :=
  inferInstanceAs (Decidable (_ ∧ _ ∧ _))

/-- A name can be read from a text as a component. -/
lemma IsName.isPart (h : IsName n) : IsPart n :=
  ⟨h.1, h.2.1, h.2.2.2⟩

namespace Path

/-- The components of a text are what stands between slashes, but for nothing and a single dot. -/
lemma mem_partsOf {t : Text} : n ∈ partsOf t ↔ n ∈ t.splitOn '/' ∧ n ≠ [] ∧ n ≠ ['.'] := by
  simp [partsOf]

/-- Every component of a text can be read from a text. -/
lemma isPart_of_mem_partsOf {t : Text} (h : n ∈ partsOf t) : IsPart n := by
  obtain ⟨hmem, hne, hdot⟩ := mem_partsOf.mp h
  exact ⟨hne, hdot, Text.not_mem_of_mem_splitOn hmem⟩

/-- Every component of a path that was read from a text can be read from a text. -/
lemma isPart_of_mem_ofString {s : String} (h : n ∈ (ofString s).parts) : IsPart n :=
  isPart_of_mem_partsOf h

/-! ### Reading back -/

/-- A slash in front adds no component. -/
lemma partsOf_slash_cons (t : Text) : partsOf ('/' :: t) = partsOf t := by
  rw [partsOf, partsOf, Text.splitOn_cons_self]
  rfl

/-- Components that are joined by slashes are read again. -/
lemma partsOf_intercalate (h : ∀ n ∈ parts, IsPart n) :
    partsOf (['/'].intercalate parts) = parts := by
  by_cases hne : parts = []
  · rw [hne]
    rfl
  · rw [partsOf, List.splitOn_intercalate '/' (fun n hn => (h n hn).2.2) hne]
    apply List.filter_eq_self.mpr
    intro n hn
    simpa using (h n hn).imp_right And.left

/-- What is joined does not begin with a slash. -/
lemma head?_intercalate_ne_slash (h : ∀ n ∈ parts, IsPart n) :
    (['/'].intercalate parts).head? ≠ some '/' := by
  cases parts with
  | nil => exact Option.some_ne_none '/' ∘ Eq.symm
  | cons n rest =>
    obtain ⟨hne, -, hslash⟩ := h n List.mem_cons_self
    obtain ⟨c, cs, rfl⟩ := List.exists_cons_of_ne_nil hne
    have hhead : (['/'].intercalate ((c :: cs) :: rest)).head? = some c := by
      cases rest <;> rfl
    rw [hhead]
    rintro ⟨⟩
    exact hslash List.mem_cons_self

/-- Up to two slashes in front of a text that has none make its root. -/
lemma ofText_of_head? {t : Text} (h : t.head? ≠ some '/') :
    Root.ofText t = .none ∧ Root.ofText ('/' :: t) = .slash ∧
      Root.ofText ('/' :: '/' :: t) = .slashes := by
  cases t with
  | nil => exact ⟨rfl, rfl, rfl⟩
  | cons c t =>
    have hc : c ≠ '/' := fun hc => h (by rw [hc]; rfl)
    refine ⟨?_, ?_, ?_⟩ <;> simp [Root.ofText, hc]

/-- A path with components that can be read is read back from its text. -/
lemma ofText_text (h : ∀ n ∈ p.parts, IsPart n) : ofText p.text = p := by
  obtain ⟨root, parts⟩ := p
  obtain ⟨hnone, hslash, hslashes⟩ := ofText_of_head? (head?_intercalate_ne_slash h)
  have hparts := partsOf_intercalate h
  by_cases hbare : root = .none ∧ parts = []
  · obtain ⟨rfl, rfl⟩ := hbare
    rfl
  · rw [text, if_neg hbare]
    cases root with
    | none => exact congrArg₂ Path.mk hnone hparts
    | slash => exact congrArg₂ Path.mk hslash ((partsOf_slash_cons _).trans hparts)
    | slashes =>
      exact congrArg₂ Path.mk hslashes
        ((partsOf_slash_cons _).trans ((partsOf_slash_cons _).trans hparts))

/-- A path of such components is read back from its own text. -/
lemma ofString_toString (h : ∀ n ∈ p.parts, IsPart n) : ofString p.toString = p := by
  rw [ofString, toString, String.toList_ofList]
  exact ofText_text h

end Path

/-! ### Paths that lead somewhere -/

namespace FileTree

variable {f : FileTree} {place place' : Place}

/-- Only components that can be read are followed. -/
lemma IsWellFormed.isPart_of_follow (hf : f.IsWellFormed)
    (h : f.follow place parts = .ok place') : ∀ n ∈ parts, IsPart n := by
  induction parts generalizing place with
  | nil => exact List.forall_mem_nil _
  | cons n parts ih =>
    rw [follow] at h
    rw [List.forall_mem_cons]
    split at h
    · cases h
    · cases h
    · split at h
      · next hup => exact ⟨by rw [hup]; decide, ih h⟩
      · split at h
        · cases h
        · split at h
          · next hsome => exact ⟨(hf.isName hsome).isPart, ih h⟩
          · cases h

/-- A path to a file has components that can be read. -/
lemma IsWellFormed.isPart_of_isFile (hf : f.IsWellFormed) (h : f.isFile p = .ok true) :
    ∀ n ∈ p.parts, IsPart n := by
  rw [isFile, look?] at h
  split at h
  · cases h
  · split at h
    · next place hplace =>
      rw [locate] at hplace
      split at hplace
      · cases hplace
      · exact hf.isPart_of_follow hplace
    · cases h
    · cases h

end FileTree

end DesignTokens
