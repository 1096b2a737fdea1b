import DesignTokens.Proofs.Workspace.Authority
import DesignTokens.Workspace.Following

/-!
# Token files

A search of the tree gives paths to files; those that can be read as a source and define tokens are
the token files (`Discovery.Finds`), and each of them has a descriptor
(`Discovery.mem_tokenFiles_iff`).
-/

namespace DesignTokens

namespace Discovery

variable {f : FileTree} {d : Discovery} {p : Path} {found ps : List Path}

/-- The descriptor of the source for a file, if the file defines tokens. -/
def tokenFile? (f : FileTree) (d : Discovery) (p : Path) : Option SourceDescriptor :=
  (SourceKind.ofPath? p).bind fun kind =>
    if f.definesTokens p kind = .ok true then some (d.descriptorOf kind p) else none

/-- A file has a descriptor if it is of a kind and defines tokens. -/
lemma tokenFile?_eq_some_iff {descriptor : SourceDescriptor} :
    d.tokenFile? f p = some descriptor ↔ ∃ kind, SourceKind.ofPath? p = some kind ∧
      f.definesTokens p kind = .ok true ∧ descriptor = d.descriptorOf kind p := by
  rw [tokenFile?, Option.bind_eq_some_iff]
  refine exists_congr fun kind => and_congr_right fun _ => ?_
  split
  · next h => simp [h, eq_comm]
  · next h => simp [h]

/-- The descriptors for the token files that a search of the tree finds. -/
def tokenFiles (f : FileTree) (d : Discovery) : List SourceDescriptor :=
  match f.isDirectory d.root, d.findFiles f with
  | .ok true, .ok ps => ps.filterMap (d.tokenFile? f)
  | _, _ => []

/-! ### What a search depends on -/

/-- Gathering does not depend on what was found before, nor on whether files are followed. -/
lemma gather_congr (discovered : OrderedMap String Path) (following : Bool)
    (found ps : List Path) :
    gather f { d with discovered, following } found ps = gather f d found ps := by
  induction ps generalizing found with
  | nil => rfl
  | cons p ps ih =>
    rw [gather, gather]
    simp only [ih]
    rfl

/-- Searching along patterns does not depend on what was found before, nor on whether files are
followed. -/
lemma searchFrom_congr (discovered : OrderedMap String Path) (following : Bool)
    (found : List Path) (ts : List Text) :
    searchFrom f { d with discovered, following } found ts = searchFrom f d found ts := by
  induction ts generalizing found with
  | nil => rfl
  | cons t ts ih =>
    rw [searchFrom, searchFrom]
    simp only [ih, gather_congr]

/-- What is found does not depend on what was found before, or on being followed. -/
lemma findFiles_congr (discovered : OrderedMap String Path) (following : Bool) :
    { d with discovered, following }.findFiles f = d.findFiles f :=
  searchFrom_congr discovered following [] d.patterns

/-- The token files are the same whether files are followed or not. -/
lemma tokenFiles_following (following : Bool) :
    { d with following }.tokenFiles f = d.tokenFiles f := by
  rw [tokenFiles, tokenFiles, findFiles_congr]
  rfl

/-! ### Files that are found -/

/-- Only paths to files are gathered. -/
lemma isFile_of_mem_gather {enough : Bool} {all : List Path}
    (hfound : ∀ p ∈ found, f.isFile p = .ok true) (h : gather f d found ps = .ok (all, enough)) :
    ∀ p ∈ all, f.isFile p = .ok true := by
  induction ps generalizing found with
  | nil =>
    cases h
    exact hfound
  | cons p ps ih =>
    obtain ⟨b, hb, h⟩ := bind_eq_ok_iff.mp h
    split at h
    · exact ih hfound h
    · next hnew =>
      have hfile : f.isFile p = .ok true := by
        rw [hb]
        cases b
        · simp at hnew
        · rfl
      have hmore : ∀ p' ∈ found ++ [p], f.isFile p' = .ok true :=
        List.forall_mem_append.mpr ⟨hfound, List.forall_mem_singleton.mpr hfile⟩
      dsimp only at h
      split at h
      · cases h
        exact hmore
      · exact ih hmore h

/-- Only paths to files are found along patterns. -/
lemma isFile_of_mem_searchFrom {ts : List Text} {all : List Path}
    (hfound : ∀ p ∈ found, f.isFile p = .ok true) (h : searchFrom f d found ts = .ok all) :
    ∀ p ∈ all, f.isFile p = .ok true := by
  induction ts generalizing found with
  | nil =>
    cases h
    exact hfound
  | cons t ts ih =>
    obtain ⟨pattern, -, h⟩ := bind_eq_ok_iff.mp h
    obtain ⟨paths, -, h⟩ := bind_eq_ok_iff.mp h
    obtain ⟨⟨more, enough⟩, hgather, h⟩ := bind_eq_ok_iff.mp h
    have hmore : ∀ p ∈ more, f.isFile p = .ok true := by
      cases hg : gather f d found paths with
      | error e =>
        rw [hg] at hgather
        cases hgather
      | ok result =>
        rw [hg] at hgather
        cases hgather
        exact isFile_of_mem_gather hfound hg
    cases enough with
    | true =>
      cases h
      exact hmore
    | false => exact ih hmore h

/-- A search of the tree finds the path as a file that defines tokens. -/
def Finds (f : FileTree) (d : Discovery) (p : Path) : Prop :=
  f.isDirectory d.root = .ok true ∧ (∃ ps, d.findFiles f = .ok ps ∧ p ∈ ps) ∧
    ∃ kind, SourceKind.ofPath? p = some kind ∧ f.definesTokens p kind = .ok true

/-- A path that is found leads to a file. -/
lemma Finds.isFile (h : d.Finds f p) : f.isFile p = .ok true := by
  obtain ⟨-, ⟨ps, hps, hp⟩, -⟩ := h
  exact isFile_of_mem_searchFrom (List.forall_mem_nil _) hps p hp

/-- The token files of a search are those that it finds. -/
lemma mem_tokenFiles_iff {e : SourceDescriptor} :
    e ∈ d.tokenFiles f ↔ ∃ p kind, d.Finds f p ∧ SourceKind.ofPath? p = some kind ∧
      e = d.descriptorOf kind p := by
  have hfinds : ∀ p kind, SourceKind.ofPath? p = some kind → (d.Finds f p ↔
      f.isDirectory d.root = .ok true ∧ (∃ ps, d.findFiles f = .ok ps ∧ p ∈ ps) ∧
        f.definesTokens p kind = .ok true) := by
    intro p kind hkind
    simp [Finds, hkind]
  rw [tokenFiles]
  split
  · next ps hroot hps =>
    rw [List.mem_filterMap]
    refine exists_congr fun p => ?_
    rw [tokenFile?_eq_some_iff, ← exists_and_left]
    refine exists_congr fun kind => ?_
    constructor
    · rintro ⟨hp, hkind, hdefines, rfl⟩
      exact ⟨(hfinds p kind hkind).mpr ⟨hroot, ⟨ps, hps, hp⟩, hdefines⟩, hkind, rfl⟩
    · rintro ⟨hfound, hkind, rfl⟩
      obtain ⟨-, ⟨ps', hps', hp⟩, hdefines⟩ := (hfinds p kind hkind).mp hfound
      cases hps.symm.trans hps'
      exact ⟨hp, hkind, hdefines, rfl⟩
  · next hnot =>
    constructor
    · rintro ⟨⟩
    · rintro ⟨p, kind, ⟨hroot, ⟨ps, hps, -⟩, -⟩, -⟩
      exact (hnot ps hroot hps).elim

end Discovery

end DesignTokens
