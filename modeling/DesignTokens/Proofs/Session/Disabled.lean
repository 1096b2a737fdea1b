import DesignTokens.Proofs.File.Path
import DesignTokens.Proofs.Session.Opening

/-!
# Files that settings switch off

Settings may declare a file and say that it is not in use.  No source is attached for it then.  But
a search of the project knows nothing of the switch, so a file that it finds is attached all the
same.  The main result says when a file without a declaration in use stays out: exactly if no search
finds it as a token file (`Session.stays_out_iff`).
-/

namespace DesignTokens

/-! ### Sources of files -/

namespace Source

variable {f : FileTree} {s : Source}

/-- The file behind a record is the file of the source that gave it. -/
lemma sourceFile_of_load {rs : List TokenRecord} {r : TokenRecord} {file : String}
    (h : s.load f = .ok rs) (hr : r ∈ rs) (hfile : r.sourceFile = some file) :
    ∃ p, s.path? = some p ∧ file = p.toString := by
  obtain ⟨name, value, theme, category, description, rfl⟩ := exists_record_of_load h r hr
  rw [record] at hfile
  dsimp only at hfile
  split at hfile
  · cases hfile
  · obtain ⟨p, hp, hfile⟩ := Option.map_eq_some_iff.mp hfile
    exact ⟨p, hp, hfile.symm⟩

end Source

namespace Session

open CommandLine

variable {files : FileTree} {i : Invocation} {s : Settings} {watching : Bool}
  {place : Place}

/-- Nothing of the file at a place is in the workspace: no source of it is attached, and no record
that was ever registered comes from it. -/
structure IsOut (w : Workspace) (place : Place) : Prop where
  /-- No source of the file is attached. -/
  source : ∀ id src p, w.source? id = some src → src.path? = some p → w.files.placeOf p ≠ place
  /-- No registered record comes from the file. -/
  record : ∀ name, ∀ r ∈ w.registry.getAll name, ∀ file, r.sourceFile = some file →
    w.files.placeOf (Path.ofString file) ≠ place

/-- In a workspace that is up to date, the records come from the files of the sources. -/
lemma isOut_of_source {w : Workspace} (hup : w.UpToDate)
    (h : ∀ id src p, w.source? id = some src → src.path? = some p → w.files.placeOf p ≠ place) :
    IsOut w place where
  source := h
  record := by
    intro name r hr file hfile
    obtain ⟨id, l, hl, hrl⟩ := hup.consists.exists_load hr
    obtain ⟨src, rs, hsrc, hload, rfl⟩ := Workspace.loadOf?_eq_some_iff.mp hl
    obtain ⟨p, hp, rfl⟩ := Source.sourceFile_of_load hload hrl hfile
    -- The path of a source was read from a string, so it is read back from its own.
    obtain ⟨text, -, rfl⟩ := Option.map_eq_some_iff.mp hp
    rw [Path.ofString_toString fun n hn => Path.isPart_of_mem_ofString hn]
    exact h id src _ hsrc hp

/-- The source for a file that a search finds is valid. -/
lemma isValid_of_finds (hf : files.IsWellFormed) {d : Discovery} {p : Path} {kind : SourceKind}
    (hp : d.Finds files p) (hkind : SourceKind.ofPath? p = some kind) (dataset : DatasetPlace) :
    (Source.ofDescriptor dataset (d.descriptorOf kind p)).isValid files = .ok true := by
  have hpath : (Source.ofDescriptor dataset (d.descriptorOf kind p)).path? = some p := by
    rw [Source.path?_ofDescriptor]
    exact congrArg some (Path.ofString_toString (hf.isPart_of_isFile hp.isFile))
  rw [Source.isValid, hpath, Source.descriptor_ofDescriptor]
  rw [SourceKind.ofPath?] at hkind
  split at hkind
  · cases hkind
    exact hp.isFile
  · split at hkind
    · next hsuffix =>
      cases hkind
      exact (if_pos hsuffix).trans hp.isFile
    · cases hkind

/-- A kind that is read from a path is not that of the dataset. -/
lemma ne_builtin_of_ofPath? {p : Path} {kind : SourceKind} (h : SourceKind.ofPath? p = some kind) :
    kind ≠ .builtin := by
  rw [SourceKind.ofPath?] at h
  split at h
  · cases h
    exact SourceKind.noConfusion
  · split at h
    · cases h
      exact SourceKind.noConfusion
    · cases h

/-- A file that settings declare only as one that is not in use stays out of the workspace, exactly
if no search finds it as a token file. -/
theorem stays_out_iff (hs : loadSettings files i = .ok s)
    (hopen : (openWith files i watching).problem = none) (hfiles : files.IsWellFormed)
    (hunused : ∀ d ∈ s.resolvedSources (some (settingsPath files i).parent), ∀ p,
      d.path? = some p → files.placeOf p = place → d.enabled = false) :
    IsOut (openWith files i watching).session.workspace place
      ↔ ¬ (s.autoScan ∧ ∃ p, (discoveryOf (rootOf files i) s).Finds files p ∧
          files.placeOf p = place) := by
  obtain ⟨hsame, hup, hfrom⟩ := opened_of_no_problem hs hopen
  constructor
  · rintro hout ⟨hscan, p, hfound, rfl⟩
    obtain ⟨kind, hkind, -⟩ := hfound.2.2
    have hpath : Path.ofString p.toString = p :=
      Path.ofString_toString (hfiles.isPart_of_isFile hfound.isFile)
    -- The descriptor of the file was tried, so there is a source under its identity.
    have htried : (discoveryOf (rootOf files i) s).descriptorOf kind p ∈ descriptors files i s := by
      rw [descriptors, if_pos hscan]
      exact List.mem_append_right _ (Discovery.mem_tokenFiles_iff.mpr ⟨p, kind, hfound, hkind, rfl⟩)
    have hsome := hfrom.complete _ htried (hsame.symm ▸ isValid_of_finds hfiles hfound hkind _)
    obtain ⟨src, hsrc⟩ := Option.isSome_iff_exists.mp hsome
    obtain ⟨d, -, rfl, hid, hvalid⟩ := hfrom.origin hsrc
    -- Whatever source that is, its file is the one that was found.
    obtain ⟨hsameKind, hsameFile⟩ :=
      SourceDescriptor.eq_of_sourceId_eq (ne_builtin_of_ofPath? hkind) rfl hid
    obtain ⟨file, hfile⟩ := Source.exists_filePath_of_isValid
      (hsameKind ▸ ne_builtin_of_ofPath? hkind) hvalid
    rw [hfile, Option.getD_some] at hsameFile
    have hsrcPath : d.path? = some p := by
      rw [SourceDescriptor.path?, hfile, hsameFile]
      exact congrArg some hpath
    rw [← Source.path?_ofDescriptor] at hsrcPath
    exact hout.source _ _ _ hsrc hsrcPath (by rw [hsame])
  · intro hnot
    apply isOut_of_source hup
    intro id src p hsrc hp hplace
    obtain ⟨d, hd, rfl, -, hvalid⟩ := hfrom.origin hsrc
    rw [Source.path?_ofDescriptor] at hp
    rw [hsame] at hplace
    rcases List.mem_append.mp hd with hd | hd
    · have henabled := Workspace.enabled_of_isValid hvalid
      rw [Source.descriptor_ofDescriptor, hunused d hd p hp hplace] at henabled
      cases henabled
    · split at hd
      · next hscan =>
        obtain ⟨q, kind, hfound, -, rfl⟩ := Discovery.mem_tokenFiles_iff.mp hd
        have hpath : Path.ofString q.toString = q :=
          Path.ofString_toString (hfiles.isPart_of_isFile hfound.isFile)
        cases hp
        rw [hpath] at hplace
        exact hnot ⟨hscan, q, hfound, hplace⟩
      · cases hd

/-- A project whose settings switch its one style sheet off, and say whether to search. -/
def switchedOff (autoScan : Bool) : FileTree :=
  let text := "enable_auto_scan: " ++ (if autoScan then "yes" else "no") ++
    "\nauto_scan_patterns: ['*.css']\nsources:\n- type: css\n  path: a.css\n  enabled: no\n"
  let f := (FileTree.start ["w".toList]).write ["w".toList, settingsName] (Utf8.encode text.toList)
  f.write ["w".toList, "a.css".toList] (Utf8.encode ":root\x7b--a:1;\x7d".toList)

/-- The settings of the project. -/
def switchedOffSettings (autoScan : Bool) : Settings :=
  ⟨[⟨.stylesheet, false, none, some "a.css", true⟩], autoScan, ["*.css"], builtinPriority⟩

/-- An invocation in the working directory. -/
def inWorkingDirectory : Invocation :=
  ⟨false, some ".", none, false, none⟩

/-- The settings of the project are read as they should be. -/
lemma loadSettings_switchedOff :
    ∀ autoScan, loadSettings (switchedOff autoScan) inWorkingDirectory
      = .ok (switchedOffSettings autoScan) := by
  decide +kernel

/-- The tree of the project is well formed. -/
lemma isWellFormed_switchedOff : ∀ autoScan, (switchedOff autoScan).IsWellFormed := by
  intro b
  exact ⟨by revert b; decide +kernel, by revert b; decide +kernel, by revert b; decide +kernel⟩

/-- Without a search, the file stays out. -/
theorem stays_out_without_search :
    IsOut (openWith (switchedOff false) inWorkingDirectory false).session.workspace
      ["w".toList, "a.css".toList] := by
  have hs := loadSettings_switchedOff false
  have hopen : (openWith (switchedOff false) inWorkingDirectory false).problem = none := by
    rw [openWith_of_loadSettings hs]
    decide +kernel
  refine (stays_out_iff hs hopen (isWellFormed_switchedOff false) ?_).mpr fun h =>
    Bool.false_ne_true h.1
  intro d hd p hp hplace
  rcases List.mem_cons.mp hd with rfl | hd
  · cases hp
  · obtain rfl := List.mem_singleton.mp hd
    rfl

/-- A search that finds the file attaches it. -/
theorem switched_off_file_attached :
    loadSettings (switchedOff true) inWorkingDirectory = .ok (switchedOffSettings true) ∧
      (openWith (switchedOff true) inWorkingDirectory false).problem = none ∧
      ¬ IsOut (openWith (switchedOff true) inWorkingDirectory false).session.workspace
        ["w".toList, "a.css".toList] := by
  have hs := loadSettings_switchedOff true
  have hopen : (openWith (switchedOff true) inWorkingDirectory false).problem = none ∧
      ((openWith (switchedOff true) inWorkingDirectory false).session.workspace.source?
        "stylesheet:/w/a.css").bind Source.path? = some (Path.ofString "/w/a.css") := by
    rw [openWith_of_loadSettings hs]
    decide +kernel
  refine ⟨hs, hopen.1, fun hout => ?_⟩
  obtain ⟨src, hsrc, hp⟩ := Option.bind_eq_some_iff.mp hopen.2
  have hfiles := (opened_of_no_problem hs hopen.1).1
  have hplace := hout.source _ src _ hsrc hp
  rw [hfiles] at hplace
  exact hplace (by decide +kernel)

end Session

end DesignTokens
