import DesignTokens.Proofs.Workspace.TokenFiles
import DesignTokens.Proofs.Workspace.UpToDate
import DesignTokens.Session.Basic

/-!
# What is attached when a session is opened

A session tries the descriptors that its settings resolve to, and then, where the settings ask for
it, one descriptor for each file that is found and defines tokens.  The main lemma says that a
session that could be opened is up to date, and that its sources come from these descriptors
(`opened_of_no_problem`).
-/

namespace DesignTokens

namespace Workspace

variable {w w' : Workspace} {d : Discovery} {ds : List SourceDescriptor} {n : Nat} {p : Path}

/-! ### Searching -/

/-- In the middle of a search the workspace is up to date, its sources come from the descriptors
that were tried, and the discovery remembers no others. -/
structure Searching (w : Workspace) (n : Nat) (d : Discovery) (ds : List SourceDescriptor) :
    Prop where
  /-- The workspace is up to date. -/
  upToDate : w.UpToDate
  /-- The sources come from the descriptors. -/
  attachedFrom : w.AttachedFrom ds
  /-- The discovery is in use; what it remembers is attached. -/
  discovery : ∃ found, w.discoveries[n]? = some { d with discovered := found } ∧
    ∀ id, found.contains id → (w.source? id).isSome

/-- Notes and events change nothing in the middle of a search. -/
lemma Searching.of_noted (hw : w.Searching n d ds) (h : w.Noted w') : w'.Searching n d ds := by
  refine ⟨hw.upToDate.of_noted h, hw.attachedFrom.of_stocked h.stocked, ?_⟩
  obtain ⟨_, _, rfl⟩ := h
  exact hw.discovery

/-- A descriptor whose identity is taken changes nothing. -/
lemma AttachedFrom.concat_of_isSome (hw : w.AttachedFrom ds) {e : SourceDescriptor}
    (h : (w.source? e.sourceId).isSome) : w.AttachedFrom (ds ++ [e]) where
  origin := by
    intro id s hs
    obtain ⟨e', he', hrest⟩ := hw.origin hs
    exact ⟨e', List.mem_append_left [e] he', hrest⟩
  complete := List.forall_mem_append.mpr
    ⟨hw.complete, List.forall_mem_singleton.mpr fun _ => h⟩

/-- An addition gives up no source, and a source that joins is there. -/
lemma isSome_source?_addSource {e : SourceDescriptor} {id : String}
    (h : (w.addSource e).1 = .ok true ∧ id = e.sourceId ∨ (w.source? id).isSome) :
    ((w.addSource e).2.source? id).isSome := by
  rw [source?_addSource, source?_attach, ← outcome_addSource]
  split
  · rfl
  · next hnot => exact h.resolve_left hnot

/-- What an addition leaves of a search. -/
lemma Searching.addSource (hw : w.Searching n d ds) {e : SourceDescriptor} {joined : Bool}
    (h : (w.addSource e).1 = .ok joined) : (w.addSource e).2.Searching n d (ds ++ [e]) := by
  refine ⟨hw.upToDate.addSource e, hw.attachedFrom.addSource h, ?_⟩
  obtain ⟨found, hfound, hknown⟩ := hw.discovery
  exact ⟨found, (sameGround_addSource w e).discoveries_eq.symm ▸ hfound,
    fun id hid => isSome_source?_addSource (Or.inr (hknown id hid))⟩

/-- A file that was looked at is one whose descriptor was tried, if it defines tokens. -/
lemma Searching.acceptFile (hw : w.Searching n d ds) {accepted : Bool}
    (h : w.acceptFile n p = (.ok accepted, w')) :
    w'.files = w.files ∧ w'.Searching n d (ds ++ (d.tokenFile? w.files p).toList) := by
  obtain ⟨found, hfound, hknown⟩ := hw.discovery
  unfold Workspace.acceptFile at h
  rw [hfound] at h
  cases hkind : SourceKind.ofPath? p with
  | none =>
    rw [hkind] at h
    cases h
    rw [Discovery.tokenFile?, hkind]
    exact ⟨rfl, (List.append_nil ds).symm ▸ hw⟩
  | some kind =>
    rw [hkind] at h
    dsimp only at h
    have htoken : d.tokenFile? w.files p = if w.files.definesTokens p kind = .ok true
        then some (d.descriptorOf kind p) else none := by
      rw [Discovery.tokenFile?, hkind]
      rfl
    have hdescriptor : { d with discovered := found }.descriptorOf kind p = d.descriptorOf kind p :=
      rfl
    rw [hdescriptor] at h
    split at h
    · next hold =>
      -- A file that is remembered is attached already.
      cases h
      refine ⟨rfl, ?_⟩
      rw [htoken]
      split
      · exact ⟨hw.upToDate, hw.attachedFrom.concat_of_isSome (hknown _ hold), hw.discovery⟩
      · exact (List.append_nil ds).symm ▸ hw
    · split at h
      · cases h
      · next hnot =>
        cases h
        refine ⟨rfl, ?_⟩
        rw [htoken, hnot]
        exact (List.append_nil ds).symm ▸ hw
      · next hdefines =>
        rw [htoken, if_pos hdefines]
        have hground := sameGround_addSource w (d.descriptorOf kind p)
        split at h
        · next v hv =>
          cases h
          have houtcome : (w.addSource (d.descriptorOf kind p)).1 = .ok true := by rw [hv]
          have hadded := hw.addSource houtcome
          rw [hv] at hadded hground
          refine ⟨hground.files_eq, hadded.upToDate.of_eq rfl rfl rfl,
            hadded.attachedFrom.congr rfl rfl rfl, ?_⟩
          -- The file is remembered now, and its source has just been attached.
          refine ⟨found.insert (d.descriptorOf kind p).sourceId p, ?_, fun id hid => ?_⟩
          · have hset : (v.discoveries.set n { d with
                discovered := found.insert (d.descriptorOf kind p).sourceId p })[n]?
                  = some { d with
                      discovered := found.insert (d.descriptorOf kind p).sourceId p } := by
              rw [hground.discoveries_eq, List.getElem?_set_self']
              rw [hfound]
              rfl
            exact hset
          · have hthere : (w.addSource (d.descriptorOf kind p)).1 = .ok true ∧
                id = (d.descriptorOf kind p).sourceId ∨ (w.source? id).isSome := by
              rw [OrderedMap.contains, OrderedMap.get?_insert] at hid
              split at hid
              · next heq => exact Or.inl ⟨houtcome, heq.symm⟩
              · exact Or.inr (hknown id hid)
            have hsome := isSome_source?_addSource hthere
            rw [hv] at hsome
            exact hsome
        · next outcome v hnot hv =>
          cases h
          have houtcome : (w.addSource (d.descriptorOf kind p)).1 = .ok accepted := by rw [hv]
          have hadded := hw.addSource houtcome
          rw [hv] at hadded hground
          exact ⟨hground.files_eq, hadded⟩

/-- Accepting files tries the descriptors of the token files among them. -/
lemma Searching.acceptEach (hw : w.Searching n d ds) {ps added : List Path}
    (h : Workspace.acceptEach n ps w = (.ok added, w')) :
    w'.files = w.files ∧ w'.Searching n d (ds ++ ps.filterMap (d.tokenFile? w.files)) := by
  induction ps generalizing w ds added with
  | nil =>
    cases h
    exact ⟨rfl, (List.append_nil ds).symm ▸ hw⟩
  | cons p ps ih =>
    rw [Workspace.acceptEach] at h
    split at h
    · cases h
    · next accepted v hv =>
      obtain ⟨hfiles, hstep⟩ := hw.acceptFile hv
      cases hrest : Workspace.acceptEach n ps v with
      | mk rest v' =>
        rw [hrest] at h
        cases rest with
        | error why => cases h
        | ok rest =>
          cases h
          obtain ⟨hfiles', hall⟩ := ih hstep hrest
          refine ⟨hfiles'.trans hfiles, ?_⟩
          rw [hfiles, List.append_assoc] at hall
          rw [List.filterMap_cons]
          cases htoken : d.tokenFile? w.files p <;> rwa [htoken] at hall

/-- A search that ends has tried the descriptors of the token files that it found. -/
lemma Searching.scan {added : List Path} (hup : w.UpToDate) (hfrom : w.AttachedFrom ds)
    (hd : w.discoveries[n]? = some d) (hnew : d.discovered = .empty)
    (h : w.scan n = (.ok added, w')) :
    w'.files = w.files ∧ w'.UpToDate ∧ w'.AttachedFrom (ds ++ d.tokenFiles w.files) := by
  have hw : w.Searching n d ds := by
    refine ⟨hup, hfrom, .empty, ?_, fun id hid => by cases hid⟩
    rw [hd, ← hnew]
  unfold Workspace.scan at h
  rw [hd] at h
  dsimp only at h
  rw [Discovery.tokenFiles]
  split at h
  · cases h
  · next hroot =>
    cases h
    rw [hroot, List.append_nil]
    exact ⟨rfl, hup.of_noted (noted_note _ _), hfrom.of_stocked (noted_note _ _).stocked⟩
  · next hroot =>
    rw [hroot]
    split at h
    · cases h
    · next ps hps =>
      rw [hps]
      dsimp only
      cases heach : Workspace.acceptEach n ps (w.remarkDiscovery ("Found " ++ toString ps.length
          ++ " potential token files under " ++ d.root.toString)) with
      | mk outcome v =>
        rw [heach] at h
        cases outcome with
        | error why => cases h
        | ok rest =>
          cases h
          obtain ⟨hfiles, hall⟩ := (hw.of_noted (noted_note _ w)).acceptEach heach
          exact ⟨hfiles, hall.upToDate, hall.attachedFrom⟩

end Workspace

/-! ### Opening -/

namespace Session

variable {w w' : Workspace} {s : Settings} {root : Path}

/-- The descriptors that are tried when a session is opened: those that the settings resolve to, and
those of the token files that are found, if the settings ask for it. -/
def descriptors (files : FileTree) (i : CommandLine.Invocation) (s : Settings) :
    List SourceDescriptor :=
  s.resolvedSources (some (settingsPath files i).parent) ++
    if s.autoScan then (discoveryOf (rootOf files i) s).tokenFiles files else []

/-- The state in which a search scans. -/
def readyToScan (root : Path) (s : Settings) (watching : Bool) (w : Workspace) : Workspace :=
  { w with discoveries := [{ discoveryOf root s with following := watching }] }

/-- A search scans with a discovery of its own, and a session that watches observes the root
then. -/
lemma search_eq (watching : Bool) (hnone : w.discoveries = []) (hscan : s.autoScan) :
    search root s watching w
      = match (readyToScan root s watching w).scan 0 with
        | (.error e, v) => (.error e, v)
        | (.ok _, v) => (.ok (), if watching then v.observeRoot 0 else v) := by
  have hadded : w.addDiscovery (discoveryOf root s) = readyToScan root s false w := by
    rw [Workspace.addDiscovery, hnone]
    rfl
  rw [search, hscan, hadded]
  cases watching with
  | false =>
    cases hfound : (readyToScan root s false w).scan 0 with
    | mk found v => cases found <;> simp [hfound, Except.map]
  | true =>
    have hset : (readyToScan root s false w).setFollowing 0 true = readyToScan root s true w := rfl
    cases hfound : (readyToScan root s true w).scan 0 with
    | mk found v => cases found <;> simp [Workspace.follow, hset, hfound, Except.map]

/-- Observing a root leaves files, sources and records alone. -/
lemma upToDate_observeRoot {ds : List SourceDescriptor} (n : Nat) (hup : w.UpToDate)
    (hfrom : w.AttachedFrom ds) :
    (w.observeRoot n).files = w.files ∧ (w.observeRoot n).UpToDate ∧
      (w.observeRoot n).AttachedFrom ds := by
  unfold Workspace.observeRoot
  split
  · exact ⟨rfl, hup, hfrom⟩
  · split
    · exact ⟨rfl, hup.of_eq rfl rfl rfl, hfrom.congr rfl rfl rfl⟩
    · exact ⟨rfl, hup, hfrom⟩

/-- A search that ends has tried the descriptors of the token files. -/
lemma upToDate_search {watching : Bool} {ds : List SourceDescriptor} (hup : w.UpToDate)
    (hfrom : w.AttachedFrom ds) (hnone : w.discoveries = [])
    (h : search root s watching w = (.ok (), w')) :
    w'.files = w.files ∧ w'.UpToDate ∧ w'.AttachedFrom
      (ds ++ if s.autoScan then (discoveryOf root s).tokenFiles w.files else []) := by
  by_cases hscan : s.autoScan
  · rw [search_eq watching hnone hscan] at h
    have hready : (readyToScan root s watching w).UpToDate := hup.of_eq rfl rfl rfl
    have hreadyFrom : (readyToScan root s watching w).AttachedFrom ds := hfrom.congr rfl rfl rfl
    rw [if_pos hscan]
    split at h
    · cases h
    · next added v hv =>
      cases h
      obtain ⟨hfiles, hup', hfrom'⟩ := Workspace.Searching.scan hready hreadyFrom rfl rfl hv
      rw [Discovery.tokenFiles_following] at hfrom'
      split
      · obtain ⟨hobserved, hup', hfrom'⟩ := upToDate_observeRoot 0 hup' hfrom'
        exact ⟨hobserved.trans hfiles, hup', hfrom'⟩
      · exact ⟨hfiles, hup', hfrom'⟩
  · have hsame : search root s watching w = (.ok (), w) := by simp [search, hscan]
    cases hsame.symm.trans h
    rw [if_neg hscan, List.append_nil]
    exact ⟨rfl, hup, hfrom⟩

/-- What settings are noted in the journal changes nothing else. -/
lemma noted_noteSettings (p : Path) (s : Settings) (w : Workspace) :
    w.Noted (noteSettings p s w) := by
  unfold noteSettings
  split
  · exact Workspace.noted_note _ w
  · exact Workspace.Noted.refl w

variable {files : FileTree} {i : CommandLine.Invocation} {watching : Bool}

/-- The opening of a session once its settings are loaded. -/
def openLoaded (files : FileTree) (i : CommandLine.Invocation) (watching : Bool) (s : Settings) :
    Opening :=
  let root := rootOf files i
  let path := settingsPath files i
  match (noteSettings path s (.new files .bundled watching)).populate
      (s.resolvedSources (some path.parent)) with
  | (.error why, w) => ⟨[], ⟨root, w⟩, some why.message⟩
  | (.ok rs, w) =>
      match search root s watching w with
      | (.ok (), w) => ⟨warnings rs, ⟨root, w⟩, none⟩
      | (.error e, w) => ⟨warnings rs, ⟨root, w⟩, some e.message⟩

/-- A session whose settings are loaded is opened with them. -/
lemma openWith_of_loadSettings (hs : loadSettings files i = .ok s) (watching : Bool) :
    openWith files i watching = openLoaded files i watching s := by
  rw [openWith, hs]
  rfl

/-- Opening has no problem if the sources can be attached and the search ends. -/
lemma exists_of_no_problem (h : (openLoaded files i watching s).problem = none) :
    ∃ results v, (noteSettings (settingsPath files i) s (.new files .bundled watching)).populate
          (s.resolvedSources (some (settingsPath files i).parent)) = (.ok results, v) ∧
      search (rootOf files i) s watching v
        = (.ok (), (openLoaded files i watching s).session.workspace) := by
  unfold openLoaded at h ⊢
  dsimp only at h ⊢
  split at h
  · cases h
  · next results v hv =>
    refine ⟨results, v, hv, ?_⟩
    split at h
    · next v' hv' => rw [hv']
    · cases h

/-- A session that could be opened is up to date, and its sources come from the descriptors that
were tried. -/
theorem opened_of_no_problem (hs : loadSettings files i = .ok s)
    (h : (openWith files i watching).problem = none) :
    (openWith files i watching).session.workspace.files = files ∧
      (openWith files i watching).session.workspace.UpToDate ∧
      (openWith files i watching).session.workspace.AttachedFrom (descriptors files i s) := by
  rw [openWith_of_loadSettings hs] at h ⊢
  obtain ⟨results, v, hv, hsearch⟩ := exists_of_no_problem h
  have hbare : ∀ w : Workspace, w.catalogue = .empty → w.cleared.catalogue = .empty := by
    intro w hw
    rw [Workspace.catalogue_cleared, hw, ite_self]
  have hnoted := noted_noteSettings (settingsPath files i) s (.new files .bundled watching)
  have hground := hnoted.sameGround.trans (Workspace.sameGround_populate _
    (s.resolvedSources (some (settingsPath files i).parent)))
  obtain ⟨hfrom, hup⟩ := Workspace.populate_of_bare (hbare _ hnoted.catalogue_eq) hv
  rw [hv] at hground
  obtain ⟨hfiles, hup, hfrom⟩ := upToDate_search hup hfrom hground.discoveries_eq hsearch
  have hstart : v.files = files := hground.files_eq
  rw [hstart] at hfiles hfrom
  exact ⟨hfiles, hup, hfrom⟩

end Session

end DesignTokens
