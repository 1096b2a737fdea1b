import DesignTokens.Proofs.Failure
import DesignTokens.Source.Basic

/-!
# How sources fail

A source that cannot be loaded should answer for it: its failure should be one of the source with
its identity.  For a source with a file this is so whatever the file holds, as long as the file
system takes its path.  The dataset answers for files that cannot be opened and for descriptions
that are no document, but not for a style sheet that is no text, nor for descriptions that are no
text, are not grouped, have a scalar without a value, or a number that cannot be written.  The main
result says exactly when only failures of the source are left (`Source.load_failsOnly_iff`).
-/

namespace DesignTokens

/-! ### The dataset -/

/-- A failure of a dataset for which its source answers: a file that cannot be opened, or
descriptions that are no document. -/
def DatasetError.IsAnswered (e : DatasetError) : Prop :=
  (∃ p why, e = .unopened p why) ∨ ∃ fault, e = .syntaxFault fault

/-- The failures that are answered for are those reported as failures of the source. -/
lemma DatasetError.isAnswered_iff {e : DatasetError} {id : String} :
    e.IsAnswered ↔ ∃ why, LoadError.ofDatasetError id e = .source id why := by
  cases e <;> simp [IsAnswered, LoadError.ofDatasetError]

namespace Dataset

open DatasetError

variable {f : FileTree} {p directory : Path} {d : Yaml.Document} {v : Yaml.Value}

/-- The source answers for a style sheet exactly if its path is taken and what can be read of it is
a text. -/
lemma failsOnly_tokensIn : FailsOnly IsAnswered (tokensIn f p) ↔ f.IsText p := by
  have hread : FailsOnly IsAnswered (tokensIn f p)
      ↔ FailsOnly (fun e => (ofReadError e).IsAnswered) (f.readText p) := by
    rw [tokensIn]
    cases f.readText p with
    | error e => rw [failsOnly_error, failsOnly_error]
    | ok t => exact iff_of_true (failsOnly_ok _) (failsOnly_ok _)
  rw [hread, FileTree.failsOnly_readText fun why => Or.inl ⟨p, why, rfl⟩, FileTree.IsText,
    Option.eq_none_iff_forall_ne_some]
  refine and_congr (forall_congr' fun why => ?_) (forall_congr' fun bytes => ?_)
  · simp [ofReadError, IsAnswered]
  · refine imp_congr_right fun _ => ?_
    cases Utf8.decode bytes <;> simp [ofReadError, IsAnswered]

/-! The only failure of a section is that something in it cannot be written, and the source of the
dataset does not answer for that. -/

/-- The source answers for something written exactly if it can be written. -/
lemma failsOnly_written : FailsOnly IsAnswered (written d v) ↔ (d.display v).isSome := by
  rw [written]
  cases d.display v with
  | none => simp [IsAnswered]
  | some t => exact iff_of_true (failsOnly_ok t) rfl

/-- The source does not answer for what cannot be written. -/
lemma written_never_answered : FailsOnly (fun e => ¬ e.IsAnswered) (written d v) := by
  rw [written]
  cases d.display v with
  | none => simp [IsAnswered]
  | some t => exact failsOnly_ok t

/-- The names and the descriptions in a section can be written. -/
def IsWritable (d : Yaml.Document) (v : Yaml.Value) : Prop :=
  ∀ e ∈ (d.entries? v).getD [], (d.display e.1).isSome ∧ (d.display e.2).isSome

/-- The source does not answer for an entry that cannot be written. -/
lemma entry_never_answered {e : Yaml.Value × Yaml.Value} : FailsOnly (fun e => ¬ e.IsAnswered) do
    return (← written d e.1, ← written d e.2) := by
  refine failsOnly_bind.mpr ⟨written_never_answered, fun name _ => ?_⟩
  exact failsOnly_bind.mpr ⟨written_never_answered, fun text _ => failsOnly_ok _⟩

/-- The source does not answer for a section with something in it that cannot be written. -/
lemma sectionDescriptions_never_answered :
    FailsOnly (fun e => ¬ e.IsAnswered) (sectionDescriptions d v) :=
  FailsOnly.mapM fun _ _ => entry_never_answered

/-- The source answers for a section exactly if it can be written. -/
lemma failsOnly_sectionDescriptions :
    FailsOnly IsAnswered (sectionDescriptions d v) ↔ IsWritable d v := by
  rw [sectionDescriptions, failsOnly_mapM_iff fun _ _ => entry_never_answered]
  refine forall_congr' fun e => imp_congr_right fun _ => ?_
  rw [failsOnly_bind, failsOnly_written]
  refine and_congr_right fun hname => ?_
  obtain ⟨name, hname⟩ := Option.isSome_iff_exists.mp hname
  have hwritten : written d e.1 = .ok name := by rw [written, hname]
  constructor
  · intro h
    exact failsOnly_written.mp (failsOnly_bind.mp (h name hwritten)).1
  · intro h name' _
    exact failsOnly_bind.mpr ⟨failsOnly_written.mpr h, fun text _ => failsOnly_ok _⟩

/-- A document that says nothing, or that groups descriptions in sections which can be written. -/
def IsGrouped (d : Yaml.Document) : Prop :=
  d.isNothing d.root ∨
    ∃ sections, d.entries? d.root = some sections ∧ ∀ e ∈ sections, IsWritable d e.2

/-- A stream that may fail to be a document, but not in its text, its depth or its scalars, and
whose document groups descriptions. -/
def IsDescriptive (s : Yaml.Stream) : Prop :=
  FailsOnly (fun fault => fault.isSyntax) (Yaml.Document.read s) ∧
    ∀ d, Yaml.Document.read s = .ok d → IsGrouped d

/-- The source answers for a fault of descriptions exactly if it is one of their syntax. -/
lemma isAnswered_ofFault {fault : Yaml.Fault} :
    (DatasetError.ofFault fault).IsAnswered ↔ fault.isSyntax := by
  rw [ofFault]
  cases fault.isSyntax <;> simp [IsAnswered]

/-- The source answers for descriptions exactly if they are descriptive. -/
lemma failsOnly_descriptionsOf {s : Yaml.Stream} :
    FailsOnly IsAnswered (descriptionsOf s) ↔ IsDescriptive s := by
  rw [descriptionsOf, failsOnly_bind, failsOnly_mapError]
  simp only [isAnswered_ofFault, mapError_eq_ok_iff]
  refine and_congr_right' (forall_congr' fun d => imp_congr_right fun _ => ?_)
  rw [IsGrouped]
  cases d.isNothing d.root with
  | true => exact iff_of_true (failsOnly_ok _) (Or.inl rfl)
  | false =>
    cases d.entries? d.root with
    | none => simp [IsAnswered]
    | some sections =>
      have hgroups : FailsOnly IsAnswered (sections.mapM fun e => sectionDescriptions d e.2)
          ↔ ∀ e ∈ sections, IsWritable d e.2 := by
        rw [failsOnly_mapM_iff fun e _ => sectionDescriptions_never_answered]
        simp only [failsOnly_sectionDescriptions]
      simp only [Bool.false_eq_true, if_false, false_or, Option.some.injEq, exists_eq_left']
      rw [← hgroups, failsOnly_bind]
      exact and_iff_left fun groups _ => failsOnly_ok _

/-- Descriptions fail as those in their file do, if there is one that can be opened. -/
lemma failsOnly_descriptionsIn :
    FailsOnly IsAnswered (descriptionsIn f p)
      ↔ ∀ bytes, f.read p = .ok bytes → IsDescriptive (.ofBytes bytes) := by
  by_cases hthere : f.exists? p = .ok true
  · have hread : FailsOnly (fun e => (ofReadError e).IsAnswered) (f.read p) := by
      rw [FileTree.failsOnly_read fun why => Or.inl ⟨p, why, rfl⟩, FileTree.fault?_of_exists hthere]
      exact nofun
    have hopened : descriptionsIn f p
        = (f.read p).mapError ofReadError >>= fun bytes => descriptionsOf (.ofBytes bytes) := by
      rw [descriptionsIn, hthere]
      rfl
    rw [hopened, failsOnly_bind, failsOnly_mapError]
    simp only [mapError_eq_ok_iff, failsOnly_descriptionsOf]
    exact and_iff_right hread
  · refine iff_of_true ?_ fun bytes hread => absurd (FileTree.exists?_of_read hread) hthere
    rw [descriptionsIn]
    cases hexists : f.exists? p with
    | error why =>
      rw [FileTree.eq_of_exists_error hexists]
      exact failsOnly_error.mpr (Or.inl ⟨p, .overlong, rfl⟩)
    | ok there =>
      cases there with
      | false => exact failsOnly_ok _
      | true => exact absurd hexists hthere

/-- A directory whose files are readable as far as they are read: the light style sheet is a text,
then the dark one if the light one can be opened, then the descriptions are descriptive if both
can. -/
def IsReadable (f : FileTree) (directory : Path) : Prop :=
  let light := directory.child "antd-light-theme.css".toList
  let dark := directory.child "antd-dark-theme.css".toList
  let descriptions := directory.child "token_descriptions.yaml".toList
  f.IsText light ∧ ∀ t, f.readText light = .ok t →
    f.IsText dark ∧ ∀ t', f.readText dark = .ok t' →
      ∀ bytes, f.read descriptions = .ok bytes → IsDescriptive (.ofBytes bytes)

/-- What is read behind a style sheet is read only if that can be opened and is a text. -/
lemma failsOnly_tokensIn_bind {α : Type} {k : OrderedMap Text Text → Except DatasetError α}
    {Q : Prop} (hk : ∀ tokens, FailsOnly IsAnswered (k tokens) ↔ Q) :
    FailsOnly IsAnswered (tokensIn f p >>= k)
      ↔ f.IsText p ∧ ∀ t, f.readText p = .ok t → Q := by
  rw [failsOnly_bind, failsOnly_tokensIn]
  refine and_congr_right' ?_
  rw [tokensIn]
  cases f.readText p with
  | error e => exact iff_of_true nofun nofun
  | ok t =>
    constructor
    · intro h _ _
      exact (hk _).mp (h _ rfl)
    · intro h tokens _
      exact (hk tokens).mpr (h t rfl)

/-- The source answers for a directory exactly if its files are readable. -/
lemma failsOnly_inDirectory :
    FailsOnly IsAnswered (inDirectory f directory) ↔ IsReadable f directory := by
  refine failsOnly_tokensIn_bind fun light => failsOnly_tokensIn_bind fun dark => ?_
  rw [failsOnly_bind, failsOnly_descriptionsIn]
  exact and_iff_left fun descriptions _ => failsOnly_ok _

end Dataset

/-! ### Sources -/

namespace Source

variable {f : FileTree} {s : Source}

/-- A source with a file answers for it, whatever it holds. -/
lemma failsOnly_content :
    FailsOnly (fun e => ∃ why, e = .source s.id why) (s.content f)
      ↔ ∀ p ∈ s.path?, p.fault? = none := by
  rw [content]
  cases s.path? with
  | none => exact iff_of_true (failsOnly_error.mpr ⟨.noPath, rfl⟩) nofun
  | some p =>
    have hread : FailsOnly (fun e => ∀ why, e ≠ .unfit why) (f.readText p) ↔ p.fault? = none := by
      rw [FileTree.failsOnly_readText (fun _ => nofun), Option.eq_none_iff_forall_ne_some]
      constructor
      · rintro ⟨h, -⟩ why hwhy
        exact h why hwhy why rfl
      · intro h
        exact ⟨fun why hwhy => absurd hwhy (h why), fun _ _ _ _ => nofun⟩
    simp only [Option.mem_def, Option.some.injEq, forall_eq']
    rw [← hread]
    cases f.readText p with
    | ok t => exact iff_of_true (failsOnly_ok _) (failsOnly_ok t)
    | error e =>
      rw [failsOnly_error]
      cases e <;> simp

/-- A source with a file answers for it exactly if the file system takes the path. -/
lemma failsOnly_load_of_content {records : Path × Text → List TokenRecord}
    (hload : s.load f = s.content f >>= fun c => pure (records c)) :
    FailsOnly (fun e => ∃ why, e = .source s.id why) (s.load f)
      ↔ ∀ p ∈ s.path?, p.fault? = none := by
  rw [hload, failsOnly_bind, failsOnly_content]
  exact and_iff_left fun c _ => failsOnly_ok _

/-- The source of a dataset answers for it exactly if the dataset fails only in ways that are
answered for. -/
lemma failsOnly_load_of_dataset {place : DatasetPlace} (hreader : s.reader = .dataset place) :
    FailsOnly (fun e => ∃ why, e = .source s.id why) (s.load f)
      ↔ FailsOnly DatasetError.IsAnswered (Dataset.read f place) := by
  rw [load, hreader]
  dsimp only
  cases Dataset.read f place with
  | ok dataset => exact iff_of_true (failsOnly_ok _) (failsOnly_ok _)
  | error e => rw [failsOnly_error, failsOnly_error, DatasetError.isAnswered_iff]

/-- Loading a source gives records or a failure of the source itself, except where a path cannot be
handed to the file system, and where a file of the dataset is not readable. -/
theorem load_failsOnly_iff (f : FileTree) (place : DatasetPlace) (d : SourceDescriptor) :
    let s := Source.ofDescriptor place d
    FailsOnly (fun e => ∃ why, e = .source s.id why) (s.load f) ↔
      match d.kind, place with
      | .builtin, .bundled => True
      | .builtin, .directory p => Dataset.IsReadable f p
      | _, _ => ∀ p ∈ d.path?, p.fault? = none := by
  cases hkind : d.kind with
  | builtin =>
    have hs : Source.ofDescriptor place d = ⟨d, .dataset place⟩ := by rw [ofDescriptor, hkind]
    rw [hs]
    intro s
    rw [failsOnly_load_of_dataset (s := s) rfl]
    cases place with
    | bundled => exact iff_of_true (failsOnly_ok Dataset.bundled) trivial
    | directory p => exact Dataset.failsOnly_inDirectory
  | stylesheet =>
    have hs : Source.ofDescriptor place d = ⟨d, .stylesheet⟩ := by rw [ofDescriptor, hkind]
    rw [hs]
    exact failsOnly_load_of_content rfl
  | script =>
    have hs : Source.ofDescriptor place d = ⟨d, .script⟩ := by rw [ofDescriptor, hkind]
    rw [hs]
    exact failsOnly_load_of_content rfl

/-- Where the light style sheet of a dataset is no text, the failure is not one of the source. -/
theorem load_of_undecoded_sheet :
    let f : FileTree :=
      (FileTree.start []).write ["d".toList, "antd-light-theme.css".toList] [0xFF]
    let s := Source.ofDescriptor (.directory (Path.ofString "d")) (SourceDescriptor.builtin 100)
    s.load f = .error (.undecoded ⟨0, 1, 0xFF, .start⟩) ∧
      ¬ FailsOnly (fun e => ∃ why, e = .source s.id why) (s.load f) := by
  intro f s
  have hload : s.load f = .error (.undecoded ⟨0, 1, 0xFF, .start⟩) := by
    decide +kernel
  refine ⟨hload, fun h => ?_⟩
  obtain ⟨why, hwhy⟩ := h _ hload
  cases hwhy

end Source

end DesignTokens
