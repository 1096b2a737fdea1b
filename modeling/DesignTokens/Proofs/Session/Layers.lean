import DesignTokens.Proofs.Session.Disabled

/-!
# Declared, discovered and bundled sources

The sources of a session come in three layers: those that its settings declare, those that a search
found, and the dataset.  Declared sources without a rank of their own are ranked by their position,
and the other two layers have one rank each.  So the layers are in order only up to the position
where the ranks of declared sources reach that of discovered ones.  The main result says, for every
key, exactly when a declared source wins, and that a discovered source always wins over the dataset
(`Session.activeRecord_layers`).
-/

namespace DesignTokens

namespace Workspace

variable {w : Workspace} {id : String} {key : TokenKey} {r : TokenRecord}

/-! ### The source of the active record -/

/-- A source gives a record for a key when it is loaded. -/
def Gives (w : Workspace) (id : String) (key : TokenKey) : Prop :=
  ∃ l, w.loadOf? id = some l ∧ l.Produces key

/-- A source that gives a record is attached. -/
lemma Gives.exists_source (h : w.Gives id key) : ∃ src, w.source? id = some src := by
  obtain ⟨l, hl, -⟩ := h
  obtain ⟨src, rs, hsrc, -⟩ := loadOf?_eq_some_iff.mp hl
  exact ⟨src, hsrc⟩

/-- Of a key that some source gives, there is an active record. -/
lemma UpToDate.exists_active (hw : w.UpToDate) (h : w.Gives id key) :
    ∃ r, w.registry.activeRecord? key.1 key.2 = some r := by
  rw [← Option.isSome_iff_exists, Option.isSome_iff_ne_none]
  intro hnone
  obtain ⟨l, hl, hproduces⟩ := h
  exact (hw.consists.reflects.activeRecord?_eq_none_iff key).mp hnone id l hl hproduces

/-- The active record is of an attached source that gives the key, and no source that gives the key
ranks before it. -/
lemma UpToDate.source_of_active (hw : w.UpToDate) (key : TokenKey)
    (h : w.registry.activeRecord? key.1 key.2 = some r) :
    ∃ src, w.source? r.sourceId = some src ∧ w.Gives r.sourceId key ∧
      ∀ id src', w.source? id = some src' → w.Gives id key →
        toLex (src.priority, r.sourceId) ≤ toLex (src'.priority, id) := by
  obtain ⟨id, l, hl, hlast, hfirst⟩ :=
    (hw.consists.reflects.activeRecord?_eq_some_iff key).mp h
  have hr := TokenRecord.mem_of_lastFor? hlast
  have hrank : r.precedence = l.rank :=
    precedence_of_loadOf? (fun s => hw.source_id) hl r hr.1
  obtain ⟨src, rs, hsrc, hrs, rfl⟩ := loadOf?_eq_some_iff.mp hl
  obtain rfl : r.sourceId = id := congrArg Prod.snd hrank
  refine ⟨src, hsrc, ⟨_, hl, r, hr⟩, ?_⟩
  rintro id' src' hsrc' ⟨l', hl', hproduces⟩
  have hle := hfirst id' l' hl' hproduces
  obtain ⟨src'', rs', hsrc'', hrs', rfl⟩ := loadOf?_eq_some_iff.mp hl'
  cases hsrc'.symm.trans hsrc''
  exact hle

end Workspace

namespace Settings

variable {s : Settings} {directory : Option Path}

/-- Settings resolve to the dataset and to the declared sources of other kinds, each placed at its
position. -/
lemma mem_resolvedSources_iff {e : SourceDescriptor} :
    e ∈ s.resolvedSources directory ↔ e = .builtin s.builtinPriority ∨
      ∃ position d, s.sources[position]? = some d ∧ d.kind ≠ .builtin ∧
        e = place directory position d := by
  rw [resolvedSources, List.mem_cons, List.mem_filterMap]
  refine or_congr_right ?_
  constructor
  · rintro ⟨⟨d, position⟩, hmem, he⟩
    dsimp only at he
    split at he
    · cases he
    · next hkind =>
      cases he
      exact ⟨position, d, List.mem_zipIdx_iff_getElem?.mp hmem, hkind, rfl⟩
  · rintro ⟨position, d, hd, hkind, rfl⟩
    exact ⟨(d, position), List.mem_zipIdx_iff_getElem?.mpr hd, if_neg hkind⟩

end Settings

namespace Session

open CommandLine

variable {files : FileTree} {i : Invocation} {s : Settings} {watching : Bool} {dir root : Path}
  {w : Workspace} {id : String} {position : Nat}

/-! ### Layers -/

/-- The source with an identity is the one that settings in a directory declare at a position. -/
def DeclaredAt (dir : Path) (s : Settings) (w : Workspace) (position : Nat) (id : String) : Prop :=
  ∃ d src, s.sources[position]? = some d ∧ d.kind ≠ .builtin ∧ w.source? id = some src ∧
    src.descriptor = Settings.place (some dir) position d

/-- The source with an identity is one of a token file below a root, and not declared. -/
def Discovered (root dir : Path) (s : Settings) (w : Workspace) (id : String) : Prop :=
  (∃ src, w.source? id = some src ∧
    src.descriptor ∈ (discoveryOf root s).tokenFiles w.files) ∧
    ∀ position, ¬ DeclaredAt dir s w position id

/-- A source whose descriptor has a rank has that rank. -/
lemma priority_of_descriptor {src : Source} {p : Int} (h : src.descriptor.priority = some p) :
    src.priority = p := by
  rw [Source.priority, h]

/-- A declared source without a rank of its own is ranked by its position. -/
lemma DeclaredAt.priority_eq (h : DeclaredAt dir s w position id)
    (hrank : ∀ d ∈ s.sources, d.priority = none) {src : Source} (hsrc : w.source? id = some src) :
    src.priority = declaredPriority + position := by
  obtain ⟨d, src', hd, -, hsrc', hplace⟩ := h
  cases hsrc.symm.trans hsrc'
  have hplaced : (Settings.place (some dir) position d).priority
      = some (d.priority.getD (declaredPriority + position)) := rfl
  apply priority_of_descriptor
  rw [hplace, hplaced, hrank d (List.mem_of_getElem? hd), Option.getD_none]

/-- A discovered source has the rank of discovered ones. -/
lemma Discovered.priority_eq (h : Discovered root dir s w id) {src : Source}
    (hsrc : w.source? id = some src) : src.priority = discoveryPriority := by
  obtain ⟨⟨src', hsrc', hmem⟩, -⟩ := h
  cases hsrc.symm.trans hsrc'
  obtain ⟨p, kind, -, -, hdescriptor⟩ := Discovery.mem_tokenFiles_iff.mp hmem
  apply priority_of_descriptor
  rw [hdescriptor]
  rfl

/-- The dataset comes first among sources of the same rank. -/
lemma builtin_lt_sourceId {d : SourceDescriptor} (h : d.kind ≠ .builtin) :
    "builtin" < d.sourceId := by
  rw [String.lt_iff_toList_lt, SourceDescriptor.sourceId]
  cases hd : d.kind with
  | builtin => exact absurd hd h
  | stylesheet =>
    simp only [SourceKind.label, String.toList_append]
    exact List.Lex.rel (by decide)
  | script =>
    simp only [SourceKind.label, String.toList_append]
    exact List.Lex.rel (by decide)

/-- Every attached source of a session is the dataset, or declared, or discovered. -/
lemma layer_cases (hfiles : w.files = files)
    (hfrom : w.AttachedFrom (descriptors files i s)) {src : Source}
    (hsrc : w.source? id = some src) :
    id = "builtin" ∧ src.priority = s.builtinPriority ∨
      (∃ position, DeclaredAt (settingsPath files i).parent s w position id) ∨
      Discovered (rootOf files i) (settingsPath files i).parent s w id := by
  by_cases hdeclared : ∃ position, DeclaredAt (settingsPath files i).parent s w position id
  · exact Or.inr (Or.inl hdeclared)
  · obtain ⟨d, hd, rfl, hid, -⟩ := hfrom.origin hsrc
    rcases List.mem_append.mp hd with hd | hd
    · rcases Settings.mem_resolvedSources_iff.mp hd with rfl | ⟨position, e, he, hkind, rfl⟩
      · exact Or.inl ⟨hid.symm, priority_of_descriptor (Source.descriptor_ofDescriptor _ _ ▸ rfl)⟩
      · exact absurd ⟨position, e, _, he, hkind, hsrc, Source.descriptor_ofDescriptor _ _⟩ hdeclared
    · split at hd
      · refine Or.inr (Or.inr ⟨⟨_, hsrc, ?_⟩, not_exists.mp hdeclared⟩)
        rwa [Source.descriptor_ofDescriptor, hfiles]
      · cases hd

/-- The identity of a declared source stands behind that of the dataset. -/
lemma DeclaredAt.builtin_lt (h : DeclaredAt dir s w position id) (hup : w.UpToDate) :
    "builtin" < id := by
  obtain ⟨d, src, -, hkind, hsrc, hplace⟩ := h
  rw [← hup.source_id hsrc, Source.id, hplace]
  exact builtin_lt_sourceId hkind

/-- The identity of a discovered source stands behind that of the dataset. -/
lemma Discovered.builtin_lt (h : Discovered root dir s w id) (hup : w.UpToDate) :
    "builtin" < id := by
  obtain ⟨⟨src, hsrc, hmem⟩, -⟩ := h
  obtain ⟨p, kind, -, hkind, hdescriptor⟩ := Discovery.mem_tokenFiles_iff.mp hmem
  rw [← hup.source_id hsrc, Source.id, hdescriptor]
  exact builtin_lt_sourceId (ne_builtin_of_ofPath? hkind)

/-- For every key: a declared source has the active record exactly if one that gives the key ranks
before all discovered sources that give it, and before the dataset if that gives it.  For sources
that are ranked by position, this is so up to position 40, where source identities decide, and up to
position 90.  If no declared source gives the key, a discovered one that does has the active
record. -/
theorem activeRecord_layers (hs : loadSettings files i = .ok s)
    (hopen : (openWith files i watching).problem = none)
    (hrank : ∀ d ∈ s.sources, d.priority = none) (hbuiltin : s.builtinPriority = builtinPriority)
    (key : TokenKey) :
    let w := (openWith files i watching).session.workspace
    let declaredAt := DeclaredAt (settingsPath files i).parent s w
    let discovered := Discovered (rootOf files i) (settingsPath files i).parent s w
    ((∃ r position, w.registry.activeRecord? key.1 key.2 = some r ∧ declaredAt position r.sourceId)
      ↔ ∃ position id, declaredAt position id ∧ w.Gives id key ∧
          (∀ id', discovered id' → w.Gives id' key →
            declaredPriority + position < discoveryPriority ∨
              declaredPriority + position = discoveryPriority ∧ id < id') ∧
          (w.Gives "builtin" key → declaredPriority + position < builtinPriority)) ∧
      ((∀ position id, declaredAt position id → ¬ w.Gives id key) →
        (∃ id, discovered id ∧ w.Gives id key) →
          ∃ r, w.registry.activeRecord? key.1 key.2 = some r ∧ discovered r.sourceId) := by
  intro w declaredAt discovered
  obtain ⟨hfiles, hup, hfrom⟩ := opened_of_no_problem hs hopen
  have hlayers : ∀ {id src}, w.source? id = some src →
      id = "builtin" ∧ src.priority = builtinPriority ∨
        (∃ position, declaredAt position id) ∨ discovered id := by
    intro id src hsrc
    rw [← hbuiltin]
    exact layer_cases hfiles hfrom hsrc
  have hdataset : ∀ {src}, w.source? "builtin" = some src → src.priority = builtinPriority := by
    intro src hsrc
    rcases hlayers hsrc with h | ⟨position, h⟩ | h
    · exact h.2
    · exact absurd (h.builtin_lt hup) (lt_irrefl _)
    · exact absurd (h.builtin_lt hup) (lt_irrefl _)
  refine ⟨⟨?_, ?_⟩, ?_⟩
  · rintro ⟨r, position, hr, hdeclared⟩
    obtain ⟨src, hsrc, hgives, hfirst⟩ := hup.source_of_active key hr
    have hpriority := hdeclared.priority_eq hrank hsrc
    refine ⟨position, r.sourceId, hdeclared, hgives, ?_, ?_⟩
    · intro id' hdiscovered hgives'
      obtain ⟨src', hsrc'⟩ := hgives'.exists_source
      have hle := hfirst id' src' hsrc' hgives'
      rw [hpriority, hdiscovered.priority_eq hsrc', Prod.Lex.toLex_le_toLex] at hle
      refine hle.imp_right (And.imp_right fun hle => lt_of_le_of_ne hle ?_)
      exact fun heq => hdiscovered.2 position (heq ▸ hdeclared)
    · intro hgives'
      obtain ⟨src', hsrc'⟩ := hgives'.exists_source
      have hle := hfirst "builtin" src' hsrc' hgives'
      rw [hpriority, hdataset hsrc', Prod.Lex.toLex_le_toLex] at hle
      exact hle.resolve_right fun h => absurd (hdeclared.builtin_lt hup) (not_lt.mpr h.2)
  · rintro ⟨position, id, hdeclared, hgives, hbefore, hdata⟩
    obtain ⟨r, hr⟩ := hup.exists_active hgives
    obtain ⟨src, hsrc, hgives', hfirst⟩ := hup.source_of_active key hr
    obtain ⟨src', hsrc'⟩ := hgives.exists_source
    have hle := hfirst id src' hsrc' hgives
    rw [hdeclared.priority_eq hrank hsrc'] at hle
    -- The active record is of one of the three layers; only a declared source can rank that high.
    rcases hlayers hsrc with ⟨heq, hpriority⟩ | ⟨position', h⟩ | h
    · rw [hpriority] at hle
      refine absurd hle (not_le.mpr (Prod.Lex.toLex_lt_toLex.mpr ?_))
      exact Or.inl (hdata (heq ▸ hgives'))
    · exact ⟨r, position', hr, h⟩
    · rw [h.priority_eq hsrc] at hle
      refine absurd hle (not_le.mpr (Prod.Lex.toLex_lt_toLex.mpr ?_))
      exact hbefore r.sourceId h hgives'
  · rintro hnone ⟨id, hdiscovered, hgives⟩
    obtain ⟨r, hr⟩ := hup.exists_active hgives
    obtain ⟨src, hsrc, hgives', hfirst⟩ := hup.source_of_active key hr
    obtain ⟨src', hsrc'⟩ := hgives.exists_source
    rcases hlayers hsrc with ⟨-, hpriority⟩ | ⟨position, h⟩ | h
    · have hle := hfirst id src' hsrc' hgives
      rw [hpriority, hdiscovered.priority_eq hsrc'] at hle
      refine absurd hle (not_le.mpr (Prod.Lex.toLex_lt_toLex.mpr ?_))
      exact Or.inl (show discoveryPriority < builtinPriority by decide)
    · exact absurd hgives' (hnone position r.sourceId h)
    · exact ⟨r, hr, h⟩

/-- A project that declares a style sheet behind some declarations without a file, and finds another
one. -/
def layered (fillers : Nat) : FileTree :=
  let text := "x: &x \x7btype: css\x7d\nsources: [" ++ String.join (List.replicate fillers "*x,") ++
    "\x7btype: css, path: b.css\x7d]\nauto_scan_patterns: [a.css]"
  let f := (FileTree.start ["w".toList]).write ["w".toList, settingsName] (Utf8.encode text.toList)
  let f := f.write ["w".toList, "a.css".toList] (Utf8.encode ":root\x7b--a:1;\x7d".toList)
  f.write ["w".toList, "b.css".toList] (Utf8.encode ":root\x7b--a:2;\x7d".toList)

/-- The settings of the project. -/
def layeredSettings (fillers : Nat) : Settings :=
  ⟨List.replicate fillers ⟨.stylesheet, true, none, none, true⟩ ++
    [⟨.stylesheet, true, none, some "b.css", true⟩], true, ["a.css"], builtinPriority⟩

/-- The source of a style sheet of the project. -/
def layeredSource (priority : Int) (file : String) : Source :=
  ⟨⟨.stylesheet, true, some priority, some file, true⟩, .stylesheet⟩

/-- No declaration of the project has a rank of its own. -/
lemma priority_layeredSettings (fillers : Nat) :
    ∀ d ∈ (layeredSettings fillers).sources, d.priority = none := by
  intro d hd
  rcases List.mem_append.mp hd with hd | hd
  · rw [List.eq_of_mem_replicate hd]
  · rw [List.mem_singleton.mp hd]

/-- The last declaration of the project is that of its style sheet. -/
lemma last_layeredSettings (fillers : Nat) :
    (layeredSettings fillers).sources[fillers]?
      = some ⟨.stylesheet, true, none, some "b.css", true⟩ := by
  simp [layeredSettings]

/-- An attached style sheet of the project gives its one record. -/
lemma gives_layeredSource {w : Workspace} {fillers : Nat} {priority : Int} {file value : String}
    (hfiles : w.files = layered fillers) (hsrc : w.source? id = some (layeredSource priority file))
    (hload : (layeredSource priority file).load (layered fillers) = .ok
      [(layeredSource priority file).record "--a".toList value.toList .light .other none]) :
    w.Gives id ("--a", .light) :=
  ⟨_, Workspace.loadOf?_eq_some_iff.mpr ⟨_, _, hsrc, hfiles ▸ hload, rfl⟩, _,
    List.mem_singleton_self _, rfl⟩

/-- The style sheet that is declared first wins over the one that is found. -/
theorem first_declared_wins :
    let w := (openWith (layered 0) inWorkingDirectory false).session.workspace
    ∃ r position, w.registry.activeRecord? "--a" .light = some r ∧
      DeclaredAt (settingsPath (layered 0) inWorkingDirectory).parent (layeredSettings 0) w position
        r.sourceId := by
  intro w
  have hs : loadSettings (layered 0) inWorkingDirectory = .ok (layeredSettings 0) := by
    decide +kernel
  have hopen : (openWith (layered 0) inWorkingDirectory false).problem = none ∧
      w.source? "stylesheet:/w/b.css" = some (layeredSource 10 "/w/b.css") := by
    dsimp only [w]
    rw [openWith_of_loadSettings hs]
    decide +kernel
  have hfiles : w.files = layered 0 := (opened_of_no_problem hs hopen.1).1
  have hload : (layeredSource 10 "/w/b.css").load (layered 0) = .ok
      [(layeredSource 10 "/w/b.css").record "--a".toList "2".toList .light .other none] := by
    decide +kernel
  refine ((activeRecord_layers hs hopen.1 (priority_layeredSettings 0) rfl ("--a", .light)).1).mpr
    ⟨0, "stylesheet:/w/b.css", ⟨_, _, last_layeredSettings 0, ?_, hopen.2, ?_⟩,
      gives_layeredSource hfiles hopen.2 hload, fun _ _ _ => Or.inl ?_, fun _ => ?_⟩
  · decide
  · decide +kernel
  · decide
  · decide

/-- The style sheet that is found wins over the one that is declared at position 40. -/
theorem later_declared_loses :
    let w := (openWith (layered 40) inWorkingDirectory false).session.workspace
    let declaredAt :=
      DeclaredAt (settingsPath (layered 40) inWorkingDirectory).parent (layeredSettings 40) w
    loadSettings (layered 40) inWorkingDirectory = .ok (layeredSettings 40) ∧
      (openWith (layered 40) inWorkingDirectory false).problem = none ∧
      (∀ d ∈ (layeredSettings 40).sources, d.priority = none) ∧
      (layeredSettings 40).builtinPriority = builtinPriority ∧
      (∃ position id, declaredAt position id ∧ w.Gives id ("--a", .light)) ∧
      ¬ ∃ r position, w.registry.activeRecord? "--a" .light = some r ∧
        declaredAt position r.sourceId := by
  intro w declaredAt
  have hs : loadSettings (layered 40) inWorkingDirectory = .ok (layeredSettings 40) := by
    decide +kernel
  have hopen : (openWith (layered 40) inWorkingDirectory false).problem = none ∧
      w.source? "stylesheet:/w/a.css" = some (layeredSource 50 "/w/a.css") ∧
      w.source? "stylesheet:/w/b.css" = some (layeredSource 50 "/w/b.css") ∧
      w.sources.keys = ["builtin", "stylesheet:/w/b.css", "stylesheet:/w/a.css"] := by
    dsimp only [w]
    rw [openWith_of_loadSettings hs]
    decide +kernel
  obtain ⟨hproblem, hfound, hdeclared, hkeys⟩ := hopen
  obtain ⟨hfiles, hup, -⟩ := opened_of_no_problem hs hproblem
  have hloads : ∀ e ∈ [("/w/a.css", "1"), ("/w/b.css", "2")],
      (layeredSource 50 e.1).load (layered 40) = .ok
        [(layeredSource 50 e.1).record "--a".toList e.2.toList .light .other none] := by
    decide +kernel
  refine ⟨hs, hproblem, priority_layeredSettings 40, rfl, ⟨40, "stylesheet:/w/b.css", ?_, ?_⟩, ?_⟩
  · exact ⟨_, _, last_layeredSettings 40, by decide, hdeclared, by decide +kernel⟩
  · exact gives_layeredSource hfiles hdeclared (hloads ("/w/b.css", "2") (by decide))
  · rintro ⟨r, position, hr, hwins⟩
    obtain ⟨src, hsrc, -, hfirst⟩ := hup.source_of_active ("--a", .light) hr
    have hle := hfirst "stylesheet:/w/a.css" _ hfound
      (gives_layeredSource hfiles hfound (hloads ("/w/a.css", "1") (by decide)))
    have hmem : r.sourceId ∈ w.sources.keys := by
      obtain ⟨a, ha, -⟩ := Option.map_eq_some_iff.mp hsrc
      exact OrderedMap.mem_keys_iff.mpr ⟨a, ha⟩
    rw [hkeys] at hmem
    simp only [List.mem_cons, List.not_mem_nil, or_false] at hmem
    rcases hmem with hid | hid | hid
    · exact absurd (hid ▸ hwins.builtin_lt hup) (lt_irrefl _)
    · -- The declared source has the same rank, and its identity comes later.
      rw [hid] at hsrc hle
      cases hsrc.symm.trans hdeclared
      exact absurd hle (by decide)
    · -- Nothing declares the file that was found.
      rw [hid] at hwins
      obtain ⟨d, src', hd, -, hsrc', hplace⟩ := hwins
      cases hsrc'.symm.trans hfound
      have hnone : ∀ d ∈ (layeredSettings 40).sources,
          (Settings.place (some (settingsPath (layered 40) inWorkingDirectory).parent) 0 d).filePath
            ≠ some "/w/a.css" := by
        decide +kernel
      exact hnone d (List.mem_of_getElem? hd) (congrArg SourceDescriptor.filePath hplace).symm

end Session

end DesignTokens
