import DesignTokens.Proofs.Failure
import DesignTokens.Settings.Loading

/-!
# When settings are loaded

Loading settings should give settings or say what is wrong with them: that the file cannot be
opened, is no document or no mapping, or violates the rules for settings.  Other failures remain for
content that is no text, for scalars without a value, for texts that cannot be encoded, and for a
path that is too long to be looked up.

Settings are the usual ones where there is no file, and where the document says nothing.  Not only
an empty document does that, but also one that is false, zero, or an empty list; otherwise they come
from a mapping that follows the rules.  The main result puts both parts together
(`Settings.load_reported_or_declared`).
-/

namespace DesignTokens

variable {f : FileTree} {p : Path} {stream : Yaml.Stream} {s : Settings}

/-- A failure that says what is wrong with the settings. -/
def SettingsError.IsReported : SettingsError → Prop
  | .unopened _ _ | .syntaxFault _ _ | .noMapping _ | .invalid _ _ _ => True
  | .unencodable _ | .badContent _ | .badPath _ => False

namespace Settings

open SettingsError

/-! ### Documents -/

/-- What a document is as settings, if it says anything: settings, or a list of violations. -/
def IsJudged (d : Yaml.Document) : Prop :=
  d.isNothing d.root ∨ FailsOnly (fun r => ∃ vs, r = .violations vs) (d.toSettings d.root)

/-- A stream whose document can be read or is at fault itself, and is judged. -/
def IsReadable (stream : Yaml.Stream) : Prop :=
  FailsOnly (fun fault => fault.isSyntax) (Yaml.Document.read stream) ∧
    ∀ d, Yaml.Document.read stream = .ok d → IsJudged d

/-- A document stands for settings: the usual ones if it says nothing, or else those that are read
from a mapping. -/
def Declares (d : Yaml.Document) (s : Settings) : Prop :=
  d.isNothing d.root ∧ s = .default ∨
    d.isNothing d.root = false ∧ (d.entries? d.root).isSome ∧ d.toSettings d.root = .ok s

/-- What is no mapping violates a rule. -/
lemma isJudged_of_no_mapping {d : Yaml.Document} (h : (d.entries? d.root).isNone) : IsJudged d := by
  rw [Option.isNone_iff_eq_none] at h
  refine Or.inr ?_
  rw [Yaml.Document.toSettings, h]
  exact failsOnly_error.mpr ⟨_, rfl⟩

/-- The settings of a document, or why it gives none. -/
lemma ofStream_of_ok {d : Yaml.Document} (h : Yaml.Document.read stream = .ok d) :
    ofStream p stream =
      if d.isNothing d.root then .ok .default
      else if (d.entries? d.root).isNone then .error (.noMapping p)
      else
        match d.toSettings d.root with
        | .ok s => .ok s
        | .error (.violations vs) => .error (.invalid p d vs)
        | .error (.unencodable e) => .error (.unencodable e) := by
  unfold ofStream
  split
  · next hfault =>
    rw [h] at hfault
    cases hfault
  · next hread =>
    rw [h] at hread
    cases hread
    rfl

/-- A stream that is no document is reported as far as its syntax is at fault. -/
lemma ofStream_of_error {fault : Yaml.Fault} (h : Yaml.Document.read stream = .error fault) :
    ofStream p stream
      = .error (if fault.isSyntax then .syntaxFault p fault else .badContent fault) := by
  unfold ofStream
  rw [h]

/-- The failures of a stream are all reported exactly if it is readable. -/
lemma failsOnly_ofStream : FailsOnly IsReported (ofStream p stream) ↔ IsReadable stream := by
  unfold IsReadable
  cases hread : Yaml.Document.read stream with
  | error fault =>
    rw [ofStream_of_error hread, failsOnly_error, failsOnly_error]
    cases hsyntax : fault.isSyntax with
    | true =>
      refine iff_of_true trivial ⟨rfl, fun d hd => ?_⟩
      cases hd
    | false => exact iff_of_false id fun h => Bool.false_ne_true h.1
  | ok d =>
    rw [ofStream_of_ok hread]
    simp only [failsOnly_ok, Except.ok.injEq, forall_eq', true_and]
    split
    · next hnothing => exact iff_of_true (failsOnly_ok _) (Or.inl hnothing)
    · next hnothing =>
      split
      · next hnone =>
        exact iff_of_true (failsOnly_error.mpr trivial) (isJudged_of_no_mapping hnone)
      · next hmapping =>
        rw [IsJudged, or_iff_right hnothing]
        cases d.toSettings d.root with
        | ok s => exact iff_of_true (failsOnly_ok s) (failsOnly_ok s)
        | error r =>
          cases r with
          | violations vs =>
            exact iff_of_true (failsOnly_error.mpr trivial) (failsOnly_error.mpr ⟨vs, rfl⟩)
          | unencodable e =>
            rw [failsOnly_error, failsOnly_error]
            refine iff_of_false id ?_
            rintro ⟨vs, hvs⟩
            cases hvs

/-- A stream gives the settings that its document declares. -/
lemma ofStream_eq_ok_iff :
    ofStream p stream = .ok s ↔ ∃ d, Yaml.Document.read stream = .ok d ∧ Declares d s := by
  cases hread : Yaml.Document.read stream with
  | error fault =>
    rw [ofStream_of_error hread]
    exact iff_of_false nofun nofun
  | ok d =>
    rw [ofStream_of_ok hread]
    simp only [Except.ok.injEq, exists_eq_left', Declares]
    cases hnothing : d.isNothing d.root with
    | true =>
      rw [if_pos rfl, Except.ok.injEq]
      simp only [true_and, Bool.true_eq_false, false_and, or_false]
      exact eq_comm
    | false =>
      cases hentries : d.entries? d.root with
      | none => simp
      | some es =>
        cases d.toSettings d.root with
        | ok s' => simp
        | error r => cases r <;> simp

/-! ### Files -/

/-- What is wrong with a file is in its content; without one, the path is looked up only. -/
lemma failsOnly_load : FailsOnly IsReported (load f (some p)) ↔
    (∃ there, f.exists? p = .ok there) ∧
      ∀ bytes, f.read p = .ok bytes → IsReadable (.ofBytes bytes) := by
  rw [load]
  cases hexists : f.exists? p with
  | error why => exact iff_of_false (fun h => failsOnly_error.mp h) nofun
  | ok there =>
    cases there with
    | false =>
      refine iff_of_true (failsOnly_ok _) ⟨⟨false, rfl⟩, fun bytes hread => ?_⟩
      rw [FileTree.exists?_of_read hread] at hexists
      cases hexists
    | true =>
      rw [and_iff_right ⟨true, rfl⟩]
      cases hread : f.read p with
      | error e =>
        obtain ⟨why, rfl⟩ := FileTree.unopened_of_exists hexists hread
        exact iff_of_true (failsOnly_error.mpr trivial) nofun
      | ok bytes =>
        simp only [Except.ok.injEq, forall_eq']
        exact failsOnly_ofStream

/-- A file gives the usual settings if it is missing, and those that its document declares
otherwise. -/
lemma load_some_eq_ok_iff : load f (some p) = .ok s ↔
    f.exists? p = .ok false ∧ s = .default ∨
      ∃ bytes d, f.read p = .ok bytes ∧ Yaml.Document.read (.ofBytes bytes) = .ok d ∧
        Declares d s := by
  rw [load]
  by_cases hthere : f.exists? p = .ok true
  · rw [hthere]
    cases hread : f.read p with
    | error e =>
      obtain ⟨why, rfl⟩ := FileTree.unopened_of_exists hthere hread
      simp
    | ok bytes =>
      simp only [ofStream_eq_ok_iff, Except.ok.injEq, Bool.true_eq_false, false_and, false_or,
        exists_and_left, exists_eq_left']
  · have hnone : ∀ bytes, f.read p ≠ .ok bytes := fun bytes hread =>
      hthere (FileTree.exists?_of_read hread)
    cases hexists : f.exists? p with
    | error why => simp [hnone]
    | ok there =>
      cases there with
      | false => simp [hnone, eq_comm]
      | true => exact absurd hexists hthere

/-- Loading settings says what is wrong with them, unless the path is too long or the content of the
file is not readable.  It gives the usual settings where there is no file, and otherwise those that
the document in the file stands for. -/
theorem load_reported_or_declared (f : FileTree) (path : Option Path) :
    (FailsOnly IsReported (load f path) ↔ ∀ p ∈ path, (∃ there, f.exists? p = .ok there) ∧
      ∀ bytes, f.read p = .ok bytes → IsReadable (.ofBytes bytes)) ∧
    ∀ s, load f path = .ok s ↔
      (∀ p ∈ path, f.exists? p = .ok false) ∧ s = .default ∨
        ∃ p ∈ path, ∃ bytes d, f.read p = .ok bytes ∧
          Yaml.Document.read (.ofBytes bytes) = .ok d ∧ Declares d s := by
  cases path with
  | none =>
    refine ⟨iff_of_true (failsOnly_ok _) nofun, fun s => ?_⟩
    simp [load, eq_comm]
  | some p =>
    simp only [Option.mem_def, Option.some.injEq, forall_eq', exists_eq_left']
    exact ⟨failsOnly_load, fun s => load_some_eq_ok_iff⟩

/-- A file that is no text gives a failure that does not say what is wrong with the settings, and an
empty list, which is no mapping, gives the usual settings. -/
theorem load_of_undecoded_or_empty_list :
    let f : FileTree := ((FileTree.start []).write ["a.yaml".toList] [0xFF]).write
      ["b.yaml".toList] ['['.toUInt8, ']'.toUInt8]
    ¬ FailsOnly IsReported (load f (some (Path.ofString "a.yaml"))) ∧
      load f (some (Path.ofString "b.yaml")) = .ok .default ∧
        (Yaml.Document.read (.ofBytes ['['.toUInt8, ']'.toUInt8])).map
          (fun d => (d.typeName d.root, (d.entries? d.root).isSome)) = .ok ("list", false) := by
  intro f
  refine ⟨fun h => ?_, ?_, by decide +kernel⟩
  · have hread : f.read (Path.ofString "a.yaml") = .ok [0xFF] := by decide +kernel
    have hfault : (Yaml.Document.read (.ofBytes [0xFF])).map (fun _ => ())
        = .error (.undecoded ⟨0, 1, 0xFF, .start⟩) := by decide +kernel
    have hreadable := (failsOnly_load.mp h).2 _ hread
    cases hdocument : Yaml.Document.read (.ofBytes [0xFF]) with
    | ok d =>
      rw [hdocument] at hfault
      cases hfault
    | error fault =>
      rw [hdocument] at hfault
      cases hfault
      cases hreadable.1 _ hdocument
  · have hread : f.read (Path.ofString "b.yaml") = .ok ['['.toUInt8, ']'.toUInt8] := by
      decide +kernel
    have hnothing : (Yaml.Document.read (.ofBytes ['['.toUInt8, ']'.toUInt8])).map
        (fun d => d.isNothing d.root) = .ok true := by decide +kernel
    cases hdocument : Yaml.Document.read (.ofBytes ['['.toUInt8, ']'.toUInt8]) with
    | error fault =>
      rw [hdocument] at hnothing
      cases hnothing
    | ok d =>
      rw [hdocument] at hnothing
      have hd : d.isNothing d.root = true := Except.ok.inj hnothing
      exact load_some_eq_ok_iff.mpr (Or.inr ⟨_, d, hread, hdocument, Or.inl ⟨hd, rfl⟩⟩)

end Settings

end DesignTokens
