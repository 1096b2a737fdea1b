import DesignTokens.Proofs.Session.Disabled
import DesignTokens.Proofs.Workspace.Moves

/-!
# Discovery and the attached sources

A discovery remembers the sources that it added, and passes over a file whose source it remembers.
Whether that source is still attached it does not ask.  Here its table is compared with the attached
sources, after any run, and what a search then leaves is compared with the files that it lists.

A remembered source that is not attached has gone astray (`Astray`).  Work, events and searches let
none go astray.  Only a removal by name, a new start and the end of the workspace do, of a source
that was remembered and attached until then; and it stays astray for as long as it is neither
attached again nor forgotten (`astray_iff`).  A search attaches every listed file that defines
tokens, except those whose source has gone astray (`listed_attached_iff`).
-/

namespace DesignTokens

namespace Discovery

variable {f : FileTree} {d : Discovery} {p : Path} {found ps all : List Path}

/-- Where the root is no directory, nothing is found. -/
lemma eq_of_searchFrom_of_not_directory {ts : List Text} (hroot : f.isDirectory d.root = .ok false)
    (h : searchFrom f d found ts = .ok all) : all = found := by
  induction ts with
  | nil =>
    cases h
    rfl
  | cons t ts ih =>
    obtain ⟨pattern, -, h⟩ := bind_eq_ok_iff.mp h
    have hnone : pattern.paths f d.root = .ok [] := by
      rw [Glob.Pattern.paths, hroot]
      rfl
    rw [hnone] at h
    exact ih h

/-- A search that lists a file has looked below a directory. -/
lemma isDirectory_ne_of_mem_findFiles (hps : d.findFiles f = .ok ps) (hp : p ∈ ps) :
    f.isDirectory d.root ≠ .ok false := by
  intro hroot
  have hnone : ps = [] := eq_of_searchFrom_of_not_directory hroot hps
  rw [hnone] at hp
  cases hp

end Discovery

namespace Workspace

variable {w w' : Workspace} {d : Discovery} {e : SourceDescriptor} {id : String} {p : Path}
  {kind : SourceKind} {h : Happening} {run : List Happening}

/-! ### Going astray -/

/-- A source is remembered, but not attached. -/
def Astray (w : Workspace) (id : String) : Prop :=
  w.Remembers id ∧ w.source? id = none

/-- A discovery that has found nothing remembers nothing. -/
lemma not_remembers (hd : w.discoveries = [d]) (hempty : d.discovered = .empty) :
    ¬ w.Remembers id := by
  rw [remembers_iff hd, hempty, OrderedMap.contains, OrderedMap.get?_empty]
  exact Bool.false_ne_true

/-- Sources are given up, the one with the identity among them if it is there. -/
def Happening.Withdraws (id : String) : Happening → Prop
  | step (.operate (.populate _)) | dispose => True
  | step (.operate (.removeSource id')) => id' = id
  | _ => False

/-- No source goes astray in a move. -/
lemma Astray.of_move (hmove : Move w w') (h : w'.Astray id) : w.Astray id := by
  cases hmove with
  | still _ hsame =>
    rw [Astray, Remembers, hsame.discoveries_eq, hsame.source?_eq] at h
    exact h
  | join _ =>
    rw [Astray, Remembers, (sameGround_attach w _).discoveries_eq, source?_attach] at h
    refine ⟨h.1, ?_⟩
    have hnone := h.2
    split at hnone
    · cases hnone
    · exact hnone
  | remember following hd hnew =>
    obtain ⟨hremembered, hnone⟩ := h
    have hbefore := hnew id ((remembers_iff rfl).mp hremembered)
    refine ⟨(remembers_iff hd).mpr (hbefore.resolve_right ?_), hnone⟩
    rw [show w.source? id = none from hnone]
    exact Bool.false_ne_true
  | leave hforgotten =>
    rw [Astray, Remembers, (sameGround_removeSource w _).discoveries_eq, source?_removeSource] at h
    refine ⟨h.1, ?_⟩
    have hnone := h.2
    split at hnone
    · next heq => exact absurd h.1 (heq ▸ hforgotten)
    · exact hnone

/-- A source that is astray behind some moves was astray before them. -/
lemma Astray.of_moves (hmoves : w.Moves w') (h : w'.Astray id) : w.Astray id := by
  induction hmoves with
  | refl => exact h
  | tail _ hmove ih => exact ih (h.of_move hmove)

/-- A source is astray, or was remembered and attached, if it is remembered at all. -/
lemma astray_or_attached (h : w.Remembers id) :
    w.Astray id ∨ (w.Remembers id ∧ (w.source? id).isSome) := by
  cases hs : w.source? id with
  | none => exact Or.inl ⟨h, hs⟩
  | some s => exact Or.inr ⟨h, rfl⟩

/-- A source only goes astray when it is withdrawn. -/
lemma Astray.of_apply (hw : w.HasDiscovery d) (hastray : (h.apply w).Astray id) :
    w.Astray id ∨ (h.Withdraws id ∧ w.Remembers id ∧ (w.source? id).isSome) := by
  rcases h.moves_or with hmoves | ⟨files, rfl⟩ | ⟨ds, rfl⟩ | ⟨id', rfl⟩ | rfl | rfl | rfl | rfl
  · exact Or.inl (hastray.of_moves (hmoves w d hw))
  · exact Or.inl hastray
  · have hcleared := (hastray.of_moves (moves_populate w ds)).1
    rw [Remembers, (sameGround_cleared w).discoveries_eq] at hcleared
    exact (astray_or_attached hcleared).imp_right fun h => ⟨trivial, h⟩
  · have hremoved : (w.removeSource id').2.Astray id := hastray
    rw [Astray, Remembers, (sameGround_removeSource w id').discoveries_eq,
      source?_removeSource] at hremoved
    obtain ⟨hremembered, hnone⟩ := hremoved
    split at hnone
    · next heq => exact (astray_or_attached hremembered).imp_right fun h => ⟨heq, h⟩
    · exact Or.inl ⟨hremembered, hnone⟩
  · have hdisposed : (w.dispose).Remembers id := hastray.1
    have hdiscoveries : w.dispose.discoveries = w.discoveries :=
      (sameGround_releaseAll _).discoveries_eq
    rw [Remembers, hdiscoveries] at hdisposed
    exact (astray_or_attached hdisposed).imp_right fun h => ⟨trivial, h⟩
  · obtain ⟨v, hv, heq⟩ := hw.moves_follow
    obtain ⟨hub, journal, hobserved⟩ := v.observeRoot_eq 0
    rw [Happening.apply, heq, hobserved] at hastray
    refine Or.inl (Astray.of_moves hv ?_)
    split at hastray <;> exact hastray
  · exact Or.inl hastray
  · obtain ⟨found, following, hd⟩ := hw
    rw [Happening.apply, disposeDiscovery_eq hd] at hastray
    exact absurd hastray.1 (not_remembers rfl rfl)

/-- In a run, a source was withdrawn that was remembered and attached, and ever since it is
remembered, but not attached. -/
def Estranged (w : Workspace) (run : List Happening) (id : String) : Prop :=
  ∃ before h rest, run = before ++ h :: rest ∧ h.Withdraws id ∧
    (w.afterAll before).Remembers id ∧ ((w.afterAll before).source? id).isSome ∧
      ∀ since, since <+: rest → (w.afterAll (before ++ h :: since)).Astray id

/-- Behind a run, those sources have gone astray that were withdrawn, and were neither attached
again nor forgotten. -/
lemma astray_iff (hw : w.HasDiscovery d) (hnone : ¬ w.Astray id) (run : List Happening) :
    (w.afterAll run).Astray id ↔ w.Estranged run id := by
  constructor
  · induction run using List.reverseRecOn with
    | nil => exact fun hastray => absurd hastray hnone
    | append_singleton run h ih =>
      intro hastray
      have hlast := hastray
      rw [afterAll_concat] at hlast
      rcases hlast.of_apply (hw.afterAll run) with hold | ⟨hwithdraws, hremembered, hattached⟩
      · obtain ⟨before, h', rest, rfl, hwithdraws, hremembered, hattached, hsince⟩ := ih hold
        refine ⟨before, h', rest ++ [h], by simp, hwithdraws, hremembered, hattached, ?_⟩
        intro since hprefix
        rcases List.prefix_concat_iff.mp hprefix with rfl | hprefix
        · simpa using hastray
        · exact hsince since hprefix
      · refine ⟨run, h, [], rfl, hwithdraws, hremembered, hattached, fun since hprefix => ?_⟩
        rw [List.prefix_nil.mp hprefix]
        exact hastray
  · rintro ⟨before, h, rest, rfl, -, -, -, hsince⟩
    exact hsince rest (List.prefix_refl rest)

/-! ### What a search attaches -/

/-- The one discovery gives files the same descriptors whatever it has found. -/
lemma HasDiscovery.exists_eq (hw : w.HasDiscovery d) : ∃ d', w.discoveries = [d'] ∧
    w.discoveries[0]? = some d' ∧ d'.descriptorOf = d.descriptorOf := by
  obtain ⟨found, following, hd⟩ := hw
  exact ⟨_, hd, by rw [hd]; rfl, rfl⟩

/-- Looking at a file changes no source, or adds the one of the file, which was not remembered. -/
lemma source?_acceptFile (hw : w.HasDiscovery d) (p : Path) :
    (∀ id, w.Remembers id → (w.acceptFile 0 p).2.Remembers id) ∧
      ((∀ id, (w.acceptFile 0 p).2.source? id = w.source? id) ∨
        ∃ kind, SourceKind.ofPath? p = some kind ∧
          ¬ w.Remembers (d.descriptorOf kind p).sourceId ∧
          w.source? (d.descriptorOf kind p).sourceId = none ∧
          ∀ id, (w.acceptFile 0 p).2.source? id = if id = (d.descriptorOf kind p).sourceId
            then some (.ofDescriptor w.place (d.descriptorOf kind p)) else w.source? id) := by
  obtain ⟨d', hd, hget, hdescriptor⟩ := hw.exists_eq
  rw [← hdescriptor]
  by_cases hdefines : ∃ kind, SourceKind.ofPath? p = some kind ∧
      w.files.definesTokens p kind = .ok true
  · obtain ⟨kind, hkind, hdefines⟩ := hdefines
    by_cases hold : d'.discovered.contains (d'.descriptorOf kind p).sourceId
    · rw [acceptFile_of_remembered hget hkind hold]
      exact ⟨fun _ hid => hid, Or.inl fun _ => rfl⟩
    · have hafter : (w.addSource (d'.descriptorOf kind p)).2.discoveries = [d'] :=
        (sameGround_addSource w _).discoveries_eq.trans hd
      -- The load changes no source, so that the outcome of the attaching decides.
      have hsource : ∀ id, (w.addSource (d'.descriptorOf kind p)).2.source? id =
          if (w.attach (d'.descriptorOf kind p)).1 = .ok true ∧
              id = (d'.descriptorOf kind p).sourceId
            then some (.ofDescriptor w.place (d'.descriptorOf kind p)) else w.source? id :=
        fun id => (source?_addSource w _ id).trans (source?_attach w _ id)
      rw [acceptFile_of_defines hget hkind hold hdefines, outcome_addSource]
      split
      · next hjoined =>
        rw [setDiscovery_eq hafter]
        refine ⟨fun id hid => ?_, Or.inr ⟨kind, hkind, mt (remembers_iff hd).mp hold,
          source?_eq_none_of_joined hjoined, fun id => (hsource id).trans (by simp [hjoined])⟩⟩
        refine (remembers_iff (d := { d' with discovered := _ }) rfl).mpr ?_
        have hfound : d'.discovered.contains id := (remembers_iff hd).mp hid
        dsimp only
        rw [OrderedMap.contains, OrderedMap.get?_insert]
        split
        · rfl
        · exact hfound
      · next hnot =>
        refine ⟨fun id hid => ?_, Or.inl fun id => (hsource id).trans (if_neg (hnot ·.1))⟩
        exact (remembers_iff hafter).mpr ((remembers_iff hd).mp hid)
  · rw [acceptFile_of_not_defines fun kind hkind hyes => hdefines ⟨kind, hkind, hyes⟩]
    exact ⟨fun _ hid => hid, Or.inl fun _ => rfl⟩

/-- A file that defines tokens has its source when it has been looked at, unless that was astray. -/
lemma isSome_source?_acceptFile (hw : w.HasDiscovery d) (hkind : SourceKind.ofPath? p = some kind)
    (hdefines : w.files.definesTokens p kind = .ok true)
    (hvalid : ∀ place,
      (Source.ofDescriptor place (d.descriptorOf kind p)).isValid w.files = .ok true)
    (hnot : ¬ w.Astray (d.descriptorOf kind p).sourceId) :
    ((w.acceptFile 0 p).2.source? (d.descriptorOf kind p).sourceId).isSome := by
  obtain ⟨d', hd, hget, hdescriptor⟩ := hw.exists_eq
  rw [← hdescriptor] at hvalid hnot ⊢
  by_cases hold : d'.discovered.contains (d'.descriptorOf kind p).sourceId
  · rw [acceptFile_of_remembered hget hkind hold, Option.isSome_iff_ne_none]
    exact fun hnone => hnot ⟨(remembers_iff hd).mpr hold, hnone⟩
  · -- The source is attached already, or it is valid and joins.
    have hadded : ((w.addSource (d'.descriptorOf kind p)).2.source?
        (d'.descriptorOf kind p).sourceId).isSome := by
      rw [source?_addSource, source?_attach]
      by_cases hjoined : (w.attach (d'.descriptorOf kind p)).1 = .ok true
      · rw [if_pos ⟨hjoined, rfl⟩]
        rfl
      · rw [if_neg fun h => hjoined h.1, Option.isSome_iff_ne_none]
        refine fun hnone => hjoined ?_
        rw [outcome_attach, source?_eq_none_iff.mp hnone]
        exact hvalid w.place
    rw [acceptFile_of_defines hget hkind hold hdefines]
    split
    · exact hadded
    · exact hadded

/-- Looking at a file takes no source away. -/
lemma source?_acceptFile_of_some (hw : w.HasDiscovery d) {s : Source}
    (hs : w.source? id = some s) : (w.acceptFile 0 p).2.source? id = some s := by
  rcases (source?_acceptFile hw p).2 with hsame | ⟨kind, -, -, hnone, hadded⟩
  · rw [hsame, hs]
  · rw [hadded, if_neg, hs]
    rintro rfl
    cases hnone.symm.trans hs

/-- Files are looked at one after another, up to the end if nothing fails. -/
lemma exists_acceptEach_of_cons {ps added : List Path}
    (h : acceptEach 0 (p :: ps) w = (.ok added, w')) :
    ∃ rest, acceptEach 0 ps (w.acceptFile 0 p).2 = (.ok rest, w') := by
  rw [acceptEach] at h
  split at h
  · cases h
  · next accepted v hv =>
    rw [hv]
    cases hrest : acceptEach 0 ps v with
    | mk rest v' =>
      rw [hrest] at h
      cases rest with
      | error why => cases h
      | ok rest =>
        cases h
        exact ⟨rest, rfl⟩

/-- Accepting files leaves the attached sources attached. -/
lemma source?_acceptEach_of_some (hw : w.HasDiscovery d) {ps added : List Path}
    (h : acceptEach 0 ps w = (.ok added, w')) {s : Source} (hs : w.source? id = some s) :
    w'.source? id = some s := by
  induction ps generalizing w added with
  | nil =>
    cases h
    exact hs
  | cons p ps ih =>
    obtain ⟨rest, hrest⟩ := exists_acceptEach_of_cons h
    exact ih (hw.acceptFile 0 p).2 hrest (source?_acceptFile_of_some hw hs)

/-- Sources that are new once files have been looked at are those of files that were not
remembered. -/
lemma source?_acceptEach_cases (hw : w.HasDiscovery d) {ps added : List Path}
    (h : acceptEach 0 ps w = (.ok added, w')) {s : Source} (hs : w'.source? id = some s) :
    w.source? id = some s ∨ ¬ w.Remembers id ∧ ∃ p ∈ ps, ∃ kind place,
      SourceKind.ofPath? p = some kind ∧ id = (d.descriptorOf kind p).sourceId ∧
        s = .ofDescriptor place (d.descriptorOf kind p) := by
  induction ps generalizing w added with
  | nil =>
    cases h
    exact Or.inl hs
  | cons p ps ih =>
    obtain ⟨rest, hrest⟩ := exists_acceptEach_of_cons h
    obtain ⟨hremembers, hsources⟩ := source?_acceptFile hw p
    rcases ih (hw.acceptFile 0 p).2 hrest with hold | ⟨hforgotten, p', hp', hrest⟩
    · rcases hsources with hsame | ⟨kind, hkind, hforgotten, -, hadded⟩
      · exact Or.inl ((hsame id).symm.trans hold)
      · rw [hadded] at hold
        split at hold
        · next heq =>
          cases hold
          exact Or.inr ⟨heq ▸ hforgotten, p, List.mem_cons_self, kind, _, hkind, heq, rfl⟩
        · exact Or.inl hold
    · exact Or.inr ⟨mt (hremembers id) hforgotten, p', List.mem_cons_of_mem _ hp', hrest⟩

/-- Of the files that are looked at, each that defines tokens has its source then, unless that was
astray. -/
lemma isSome_source?_acceptEach (hw : w.HasDiscovery d) {ps added : List Path}
    (h : acceptEach 0 ps w = (.ok added, w')) (hp : p ∈ ps)
    (hkind : SourceKind.ofPath? p = some kind) (hdefines : w.files.definesTokens p kind = .ok true)
    (hvalid : ∀ place,
      (Source.ofDescriptor place (d.descriptorOf kind p)).isValid w.files = .ok true)
    (hnot : ¬ w.Astray (d.descriptorOf kind p).sourceId) :
    (w'.source? (d.descriptorOf kind p).sourceId).isSome := by
  induction ps generalizing w added with
  | nil => cases hp
  | cons q ps ih =>
    obtain ⟨rest, hrest⟩ := exists_acceptEach_of_cons h
    obtain ⟨hmoves, hafter⟩ := hw.acceptFile 0 q
    rcases List.mem_cons.mp hp with rfl | hp
    · obtain ⟨s, hs⟩ := Option.isSome_iff_exists.mp
        (isSome_source?_acceptFile hw hkind hdefines hvalid hnot)
      exact Option.isSome_iff_exists.mpr ⟨s, source?_acceptEach_of_some hafter hrest hs⟩
    · rw [← Moves.files_eq hmoves] at hdefines hvalid
      exact ih hafter hrest hp hdefines hvalid fun h => hnot (h.of_moves hmoves)

/-- A search that ends has found no directory at its root, or looked at the files that it lists. -/
lemma scan_cases (hw : w.HasDiscovery d) {added : List Path} (h : w.scan 0 = (.ok added, w')) :
    w.files.isDirectory d.root = .ok false ∨ w.files.isDirectory d.root = .ok true ∧
      ∃ ps v added, d.findFiles w.files = .ok ps ∧ w.Noted v ∧
        acceptEach 0 ps v = (.ok added, w') := by
  obtain ⟨found, following, hd⟩ := hw
  rw [scan, hd] at h
  dsimp only [List.getElem?_cons_zero] at h
  split at h
  · cases h
  · next hroot => exact Or.inl hroot
  · next hroot =>
    refine Or.inr ⟨hroot, ?_⟩
    rw [Discovery.findFiles_congr] at h
    split at h
    · cases h
    · next ps hps =>
      cases heach : acceptEach 0 ps (w.remarkDiscovery ("Found " ++ toString ps.length
          ++ " potential token files under " ++ d.root.toString)) with
      | mk outcome v =>
        rw [heach] at h
        cases outcome with
        | error why => cases h
        | ok rest =>
          cases h
          exact ⟨ps, _, _, hps, noted_note _ w, heach⟩

/-- A source of the file is attached. -/
def HasFile (w : Workspace) (p : Path) : Prop :=
  ∃ id s, w.source? id = some s ∧ s.path? = some p

/-- The path of a file that is found is read back from the path of its source. -/
lemma path?_ofDescriptor_of_isFile {place : DatasetPlace} {f : FileTree} (hf : f.IsWellFormed)
    (hp : f.isFile p = .ok true) :
    (Source.ofDescriptor place (d.descriptorOf kind p)).path? = some p := by
  rw [Source.path?_ofDescriptor]
  exact congrArg some (Path.ofString_toString (hf.isPart_of_isFile hp))

/-- A source that stands under the identity of a file has the file. -/
lemma Admitted.hasFile (hw : w.Admitted) {f : FileTree} (hf : f.IsWellFormed)
    (hp : f.isFile p = .ok true) (hkind : SourceKind.ofPath? p = some kind)
    (hs : (w.source? (d.descriptorOf kind p).sourceId).isSome) : w.HasFile p := by
  obtain ⟨s, hs⟩ := Option.isSome_iff_exists.mp hs
  obtain ⟨place, files, e, rfl, hid, hvalid⟩ := hw hs
  obtain ⟨hsameKind, hsameFile⟩ :=
    SourceDescriptor.eq_of_sourceId_eq (Session.ne_builtin_of_ofPath? hkind) rfl hid
  obtain ⟨file, hfile⟩ := Source.exists_filePath_of_isValid
    (hsameKind ▸ Session.ne_builtin_of_ofPath? hkind) hvalid
  rw [hfile, Option.getD_some] at hsameFile
  refine ⟨_, _, hs, ?_⟩
  rw [Source.path?_ofDescriptor, SourceDescriptor.path?, hfile, hsameFile]
  exact congrArg some (Path.ofString_toString (hf.isPart_of_isFile hp))

/-- A search attaches a listed file that defines tokens exactly if its source is not astray, or the
file has a source all the same. -/
lemma hasFile_scan_iff (hw : w.HasDiscovery d) (hadmitted : w.Admitted)
    (hf : w.files.IsWellFormed) {ps added : List Path} (h : w.scan 0 = (.ok added, w'))
    (hps : d.findFiles w.files = .ok ps) (hp : p ∈ ps) (hkind : SourceKind.ofPath? p = some kind)
    (hdefines : w.files.definesTokens p kind = .ok true) :
    w'.HasFile p ↔ (w.Astray (d.descriptorOf kind p).sourceId → w.HasFile p) := by
  rcases scan_cases hw h with hroot | ⟨hroot, ps', v, added', hps', hnoted, heach⟩
  · exact absurd hroot (Discovery.isDirectory_ne_of_mem_findFiles hps hp)
  · cases hps.symm.trans hps'
    have hisFile : ∀ q ∈ ps, w.files.isFile q = .ok true :=
      Discovery.isFile_of_mem_searchFrom (List.forall_mem_nil _) hps
    have hfinds : d.Finds w.files p := ⟨hroot, ⟨ps, hps, hp⟩, kind, hkind, hdefines⟩
    have hmoved := hw.moves hnoted.moves
    have hadmitted' : w'.Admitted := by
      have hmoves := hnoted.moves.trans (hmoved.moves_acceptEach 0 ps)
      rw [heach] at hmoves
      exact hadmitted.moves hmoves
    obtain ⟨_, _, rfl⟩ := hnoted
    by_cases hastray : w.Astray (d.descriptorOf kind p).sourceId
    · constructor
      · rintro ⟨id, s, hs, hpath⟩ -
        rcases source?_acceptEach_cases hmoved heach hs with
          hold | ⟨hforgotten, q, hq, kind', place, hkind', rfl, rfl⟩
        · exact ⟨id, s, hold, hpath⟩
        · -- A source that was added for the file stands under the identity that is remembered.
          rw [path?_ofDescriptor_of_isFile hf (hisFile q hq)] at hpath
          cases hpath
          cases hkind.symm.trans hkind'
          exact absurd hastray.1 hforgotten
      · intro hfile
        obtain ⟨id, s, hs, hpath⟩ := hfile hastray
        exact ⟨id, s, source?_acceptEach_of_some hmoved heach hs, hpath⟩
    · refine iff_of_true ?_ fun h => absurd h hastray
      exact hadmitted'.hasFile hf hfinds.isFile hkind (isSome_source?_acceptEach hmoved heach hp
        hkind hdefines (Session.isValid_of_finds hf hfinds hkind) hastray)

/-- Behind any run, a search leaves a source for each listed file that defines tokens, unless the
source of the file is estranged; then the file has a source only if it had one before. -/
theorem listed_attached_iff (files : FileTree) (place : DatasetPlace) (watching : Bool)
    (d : Discovery) (run : List Happening) :
    let start := newWith files place watching d
    let w := start.afterAll run
    ∀ {w' : Workspace} {ps added : List Path} {p : Path} {kind : SourceKind},
      w.files.IsWellFormed → w.scan 0 = (.ok added, w') → d.findFiles w.files = .ok ps → p ∈ ps →
      SourceKind.ofPath? p = some kind → w.files.definesTokens p kind = .ok true →
        (w'.HasFile p ↔
          (start.Estranged run (d.descriptorOf kind p).sourceId → w.HasFile p)) := by
  intro start w w' ps added p kind hf hscan hps hp hkind hdefines
  have hfound : start.HasDiscovery d := hasDiscovery_newWith ..
  have hadmitted : start.Admitted := admitted_newWith ..
  have hfresh : ¬ start.Astray (d.descriptorOf kind p).sourceId := fun h =>
    not_remembers rfl rfl h.1
  rw [← astray_iff hfound hfresh run]
  exact hasFile_scan_iff (hfound.afterAll run) (hadmitted.afterAll hfound run) hf hscan hps hp hkind
    hdefines

/-! ### A new start between two searches -/

/-- A search for style sheets in the working directory. -/
def sheetSearch : Discovery :=
  .new (Path.ofString ".") ["*.css".toList] [] 100 50

/-- A first search attaches the style sheet that it lists. -/
theorem first_scan_attaches :
    ((newWith (treeOf ":root \x7b --a: 1px; \x7d") .bundled false sheetSearch).scan 0).2.HasFile
      (Path.ofString "a.css") := by
  have hscan : ((newWith (treeOf ":root \x7b --a: 1px; \x7d") .bundled false sheetSearch).scan 0).1
      = .ok [Path.ofString "a.css"] := by decide +kernel
  have hf : (treeOf ":root \x7b --a: 1px; \x7d").IsWellFormed :=
    ⟨by decide +kernel, by decide +kernel, by decide +kernel⟩
  have hps : sheetSearch.findFiles (treeOf ":root \x7b --a: 1px; \x7d")
      = .ok [Path.ofString "a.css"] := by decide +kernel
  have hdefines : (treeOf ":root \x7b --a: 1px; \x7d").definesTokens (Path.ofString "a.css")
      .stylesheet = .ok true := by decide +kernel
  refine (listed_attached_iff _ .bundled false sheetSearch [] hf (Prod.ext hscan rfl) hps
    List.mem_cons_self (by decide) hdefines).mpr ?_
  rintro ⟨before, h, rest, heq, -⟩
  simp at heq

/-- The dataset, switched off. -/
def noDataset : SourceDescriptor :=
  ⟨.builtin, false, none, none, false⟩

/-- Once a new start has given up the source, a search lists the file and leaves it without one. -/
theorem second_scan_misses :
    let w := (newWith (treeOf ":root \x7b --a: 1px; \x7d") .bundled false sheetSearch).afterAll
      [.step (.operate (.populate [noDataset])), .scan, .step (.operate (.populate [noDataset]))]
    (w.scan 0).1 = .ok [] ∧ sheetSearch.findFiles w.files = .ok [Path.ofString "a.css"] ∧
      w.files.definesTokens (Path.ofString "a.css") .stylesheet = .ok true ∧
      ¬ (w.scan 0).2.HasFile (Path.ofString "a.css") := by
  intro w
  have hnone : (w.scan 0).2.sources.entries = [] := by decide +kernel
  refine ⟨by decide +kernel, by decide +kernel, by decide +kernel, ?_⟩
  rintro ⟨id, s, hs, -⟩
  obtain ⟨a, ha, -⟩ := Option.map_eq_some_iff.mp hs
  have hmem := OrderedMap.mem_entries_iff.mpr ha
  rw [hnone] at hmem
  cases hmem

end Workspace

end DesignTokens
