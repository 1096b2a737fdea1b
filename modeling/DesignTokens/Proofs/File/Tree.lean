import DesignTokens.File.Tree
import DesignTokens.Proofs.OrderedMap
import Mathlib.Data.List.Infix

/-!
# Paths below a directory

In a well formed tree everything stands in a directory and has a proper name.  Where a path leads to
a directory, the path with further components leads to what stands below it
(`CanSearch.look?_below`), and a look-up that finds nothing fails in no other way, as long as no
path is too long.
-/

namespace DesignTokens

variable {parts : List Text} {n : Text}

/-! ### Paths -/

namespace Path

variable {p : Path}

/-- The path with more components. -/
def below (p : Path) (parts : List Text) : Path :=
  { p with parts := p.parts ++ parts }

/-- Below a path without a component is the path itself. -/
@[simp] lemma below_nil (p : Path) : p.below [] = p := by
  rw [below, List.append_nil]

/-- A child of a path below another is below it with one component more. -/
lemma child_below (p : Path) (parts : List Text) (n : Text) :
    (p.below parts).child n = p.below (parts ++ [n]) := by
  rw [child, below, below, List.append_assoc]

/-- Paths below the same path differ as their components do. -/
lemma below_inj {front behind : List Text} : p.below front = p.below behind ↔ front = behind := by
  rw [below, below, Path.mk.injEq, and_iff_right rfl, List.append_cancel_left_eq]

/-- A path below another has the components it was given, relative to it. -/
lemma relativeTo?_below (p : Path) (parts : List Text) :
    (p.below parts).relativeTo? p = some parts := by
  rw [relativeTo?, below, if_pos ⟨rfl, List.prefix_append p.parts parts⟩, List.drop_left]

/-- Neither the path nor a component of it is too long. -/
def IsShort (p : Path) : Prop :=
  p.isOverlong = false ∧ ∀ part ∈ p.parts, isOverlongPart part = false

/-- Nothing keeps the path from being looked up. -/
def IsFit (p : Path) : Prop :=
  p.fault? = none ∧ p.IsShort

instance : Decidable p.IsShort :=
  inferInstanceAs (Decidable (_ ∧ _))

instance : Decidable p.IsFit :=
  inferInstanceAs (Decidable (_ ∧ _))

end Path

/-! ### Well formed trees -/

/-- A name of one thing in a directory. -/
def IsName (n : Text) : Prop :=
  n ≠ [] ∧ n ≠ ['.'] ∧ n ≠ ['.', '.'] ∧ '/' ∉ n

instance : Decidable (IsName n) :=
  inferInstanceAs (Decidable (_ ∧ _ ∧ _ ∧ _))

namespace FileTree

variable {f : FileTree} {base place : Place} {root : Path} {names : List Text} {e : FileEntry}

/-- Everything stands in a directory and has a proper name. -/
structure IsWellFormed (f : FileTree) : Prop where
  /-- Nothing is put in the place of the root. -/
  ne_nil : ∀ q ∈ f.entries.keys, q ≠ []
  /-- What is above is a directory. -/
  above : ∀ q ∈ f.entries.keys, f.entry? q.dropLast = some .directory
  /-- The last component is a name. -/
  name : ∀ q ∈ f.entries.keys, ∀ n ∈ q.getLast?, IsName n

/-- Only the top of the tree is a directory without being entered. -/
lemma entry_of_ne_nil (h : place ≠ []) : f.entry? place = f.entries.get? place :=
  if_neg h

/-- Everything but the top of the tree is entered. -/
lemma mem_keys_of_isSome (hne : place ≠ []) (h : (f.entry? place).isSome) :
    place ∈ f.entries.keys := by
  rw [entry_of_ne_nil hne] at h
  exact OrderedMap.mem_keys_iff.mpr (Option.isSome_iff_exists.mp h)

/-- Everything stands in a directory. -/
lemma IsWellFormed.directory_above (hf : f.IsWellFormed) (h : (f.entry? (place ++ [n])).isSome) :
    f.entry? place = some .directory := by
  have hmem := mem_keys_of_isSome (by simp) h
  have habove := hf.above _ hmem
  rwa [List.dropLast_concat] at habove

/-- Everything has a proper name. -/
lemma IsWellFormed.isName (hf : f.IsWellFormed) (h : (f.entry? (place ++ [n])).isSome) : IsName n :=
  hf.name _ (mem_keys_of_isSome (by simp) h) n (by simp)

/-- What has something below it is a directory. -/
lemma IsWellFormed.directory_of_below (hf : f.IsWellFormed) (hne : parts ≠ [])
    (h : (f.entry? (place ++ parts)).isSome) : f.entry? place = some .directory := by
  induction parts using List.reverseRecOn with
  | nil => exact absurd rfl hne
  | append_singleton parts n ih =>
    rw [← List.append_assoc] at h
    have hparts := hf.directory_above h
    by_cases hrest : parts = []
    · rwa [hrest, List.append_nil] at hparts
    · exact ih hrest (by rw [hparts]; rfl)

/-- All components below a directory are names. -/
lemma IsWellFormed.isName_of_below (hf : f.IsWellFormed)
    (h : (f.entry? (place ++ parts)).isSome) : ∀ n ∈ parts, IsName n := by
  induction parts using List.reverseRecOn with
  | nil => exact List.forall_mem_nil _
  | append_singleton parts n ih =>
    rw [← List.append_assoc] at h
    have hparts : (f.entry? (place ++ parts)).isSome := by rw [hf.directory_above h]; rfl
    exact List.forall_mem_append.mpr ⟨ih hparts, List.forall_mem_singleton.mpr (hf.isName h)⟩

/-! ### Following components -/

/-- More components are followed from the place that the first ones lead to. -/
lemma follow_append {place' : Place} (h : f.follow place parts = .ok place') (more : List Text) :
    f.follow place (parts ++ more) = f.follow place' more := by
  induction parts generalizing place with
  | nil =>
    cases h
    rfl
  | cons n parts ih =>
    rw [follow] at h
    rw [List.cons_append, follow]
    split at h
    · cases h
    · cases h
    · next hplace =>
      split at h
      · next hup =>
        rw [if_pos hup]
        exact ih h
      · next hup =>
        rw [if_neg hup]
        split at h
        · cases h
        · next hlong =>
          rw [if_neg hlong]
          split at h
          · next hsome =>
            rw [if_pos hsome]
            exact ih h
          · cases h

/-- A name is followed to what it names in a directory. -/
lemma follow_name (hplace : f.entry? place = some .directory) (hn : n ≠ ['.', '.'])
    (hlong : Path.isOverlongPart n = false) :
    f.follow place [n]
      = if (f.entry? (place ++ [n])).isSome then .ok (place ++ [n]) else .error .missing := by
  rw [follow, hplace]
  simp only [hn, hlong, if_false, Bool.false_eq_true]
  rfl

/-- Components are followed to what stands below a place. -/
lemma IsWellFormed.follow_below (hf : f.IsWellFormed) (h : (f.entry? (place ++ parts)).isSome)
    (hlong : ∀ n ∈ parts, Path.isOverlongPart n = false) :
    f.follow place parts = .ok (place ++ parts) := by
  induction parts using List.reverseRecOn with
  | nil => rw [List.append_nil]; rfl
  | append_singleton parts n ih =>
    rw [List.forall_mem_append, List.forall_mem_singleton] at hlong
    rw [← List.append_assoc] at h ⊢
    have hparts := hf.directory_above h
    rw [follow_append (ih (by rw [hparts]; rfl) hlong.1),
      follow_name hparts (hf.isName h).2.2.1 hlong.2, if_pos h]

/-! ### Looking up what is below a directory -/

/-- Everything below a directory can be looked up along a path to the directory, and so can the
given names. -/
structure CanSearch (f : FileTree) (root : Path) (base : Place) (names : List Text) : Prop where
  /-- The tree is well formed. -/
  wellFormed : f.IsWellFormed
  /-- The path can be looked up. -/
  root_fit : root.IsFit
  /-- The path leads to the place. -/
  locate : f.locate root = .ok base
  /-- A directory stands there. -/
  directory : f.entry? base = some .directory
  /-- What is below it has paths that can be looked up. -/
  fit : ∀ q ∈ f.entries.keys, base <+: q → (root.below (q.drop base.length)).IsFit
  /-- The names lead down, and no path to one of them is too long. -/
  names : ∀ n ∈ names, n ≠ ['.', '.'] ∧ ∀ q ∈ base :: f.entries.keys, base <+: q →
    f.entry? q = some .directory → (root.below (q.drop base.length ++ [n])).IsShort

namespace CanSearch

/-- The paths of what is below the directory can be looked up. -/
lemma fit_below (h : f.CanSearch root base names) (hsome : (f.entry? (base ++ parts)).isSome) :
    (root.below parts).IsFit := by
  by_cases hparts : parts = []
  · rw [hparts, Path.below_nil]
    exact h.root_fit
  · have hmem := mem_keys_of_isSome (by simp [hparts]) hsome
    have hfit := h.fit _ hmem (List.prefix_append base parts)
    rwa [List.drop_left] at hfit

/-- The paths of the given names in a directory are short enough to be looked up. -/
lemma short_name (h : f.CanSearch root base names) (hn : n ∈ names)
    (hdir : f.entry? (base ++ parts) = some .directory) :
    (root.below (parts ++ [n])).IsShort := by
  have hmem : base ++ parts ∈ base :: f.entries.keys := by
    by_cases hparts : parts = []
    · rw [hparts, List.append_nil]
      exact List.mem_cons_self
    · exact List.mem_cons_of_mem _ (mem_keys_of_isSome (by simp [hparts]) (by rw [hdir]; rfl))
  have hshort := (h.names n hn).2 _ hmem (List.prefix_append base parts) hdir
  rwa [List.drop_left] at hshort

/-- The path to the directory leads to it, so that the further components are followed from there.
-/
lemma locate_below (h : f.CanSearch root base names) (hshort : (root.below parts).IsShort) :
    f.locate (root.below parts) = f.follow base parts := by
  have hroot := h.locate
  rw [FileTree.locate, if_neg (by rw [h.root_fit.2.1]; exact Bool.false_ne_true)] at hroot
  rw [FileTree.locate, if_neg (by rw [hshort.1]; exact Bool.false_ne_true)]
  exact follow_append hroot parts

/-- A path to what is below the directory leads to it. -/
lemma locate_entry (h : f.CanSearch root base names) (hsome : (f.entry? (base ++ parts)).isSome) :
    f.locate (root.below parts) = .ok (base ++ parts) := by
  have hshort := (h.fit_below hsome).2
  rw [h.locate_below hshort]
  refine h.wellFormed.follow_below hsome fun n hn => hshort.2 n ?_
  exact List.mem_append_right root.parts hn

/-- What stands below the directory is found there. -/
lemma look?_below (h : f.CanSearch root base names) (he : f.entry? (base ++ parts) = some e) :
    f.look? (root.below parts) = .ok (some e) := by
  have hsome : (f.entry? (base ++ parts)).isSome := by rw [he]; rfl
  rw [look?, (h.fit_below hsome).1, h.locate_entry hsome]
  simp [he]

/-- Looking one of the names up in a directory finds what stands there, or nothing. -/
lemma look?_name (h : f.CanSearch root base names) (hn : n ∈ names)
    (hdir : f.entry? (base ++ parts) = some .directory) :
    f.look? (root.below (parts ++ [n])) = .ok (f.entry? (base ++ (parts ++ [n]))) := by
  cases he : f.entry? (base ++ (parts ++ [n])) with
  | some e => exact h.look?_below he
  | none =>
    have hshort := h.short_name hn hdir
    have hlong : ∀ m ∈ parts ++ [n], Path.isOverlongPart m = false :=
      fun m hm => hshort.2 m (List.mem_append_right root.parts hm)
    rw [List.forall_mem_append, List.forall_mem_singleton] at hlong
    have hparts := h.wellFormed.follow_below (by rw [hdir]; rfl) hlong.1
    rw [← List.append_assoc] at he
    rw [look?, h.locate_below hshort, follow_append hparts,
      follow_name hdir (h.names n hn).1 hlong.2, he]
    split
    · rfl
    · rfl

end CanSearch

/-! ### Listing directories -/

/-- The children of a place are what is entered one name below it. -/
lemma mem_children_iff : (n, e) ∈ f.children place ↔ f.entry? (place ++ [n]) = some e := by
  rw [children, List.mem_filterMap, entry_of_ne_nil (by simp), ← OrderedMap.mem_entries_iff]
  constructor
  · rintro ⟨⟨q, e'⟩, hmem, hq⟩
    dsimp only at hq
    split at hq
    · next m hlast =>
      split at hq
      · next hplace =>
        cases hq
        obtain ⟨front, rfl⟩ := List.getLast?_eq_some_iff.mp hlast
        rw [List.dropLast_concat] at hplace
        exact hplace ▸ hmem
      · cases hq
    · cases hq
  · intro hmem
    refine ⟨(place ++ [n], e), hmem, ?_⟩
    simp

/-- The directories below a directory are those of the tree, with itself among them. -/
lemma mem_directoriesBelow_iff (hplace : f.entry? place = some .directory) :
    parts ∈ f.directoriesBelow place ↔ f.entry? (place ++ parts) = some .directory := by
  rw [directoriesBelow, List.mem_cons, List.mem_filterMap]
  constructor
  · rintro (rfl | ⟨⟨q, e'⟩, hmem, hq⟩)
    · rwa [List.append_nil]
    · dsimp only at hq
      split at hq
      · next hbelow =>
        cases hq
        obtain ⟨rfl, ⟨behind, rfl⟩, hne⟩ := hbelow
        have hbehind : behind ≠ [] := fun h => hne (by rw [h, List.append_nil])
        rw [List.drop_left, entry_of_ne_nil (by simp [hbehind])]
        exact OrderedMap.mem_entries_iff.mp hmem
      · cases hq
  · intro hdir
    by_cases hparts : parts = []
    · exact Or.inl hparts
    · rw [entry_of_ne_nil (by simp [hparts])] at hdir
      refine Or.inr ⟨(place ++ parts, .directory), OrderedMap.mem_entries_iff.mpr hdir, ?_⟩
      simp [hparts]

end FileTree

end DesignTokens
