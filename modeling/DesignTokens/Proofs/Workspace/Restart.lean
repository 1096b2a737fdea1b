import DesignTokens.Proofs.Catalogue.Trail
import DesignTokens.Proofs.Workspace.Loading

/-!
# Starting anew

A start with declared sources gives up the old sources and forgets their records, but only where
there are sources to give up.  Records outlive the removal of their source, so a workspace may have
records and no sources, and then they stay.

The main result compares the start of a workspace that has lived through any sequence of commands
with the start of a new one over the same files (`populate_sameContents_iff`).  Both leave the same
sources, active records and audit trail exactly if the workspace still had a source, or had no
records.

Two states that are alike in files and sources attach and load the same (`Alike.populate`), whatever
relation of their catalogues the merges keep.  It is used twice: catalogues with the same stock keep
it, and a trail that is longer at its front stays longer by the same records.
-/

namespace DesignTokens

namespace Workspace

variable {w w' : Workspace} {R : Catalogue → Catalogue → Prop}

/-- The sources under their identities, oldest first. -/
def sourceSet (w : Workspace) : List (String × Source) :=
  w.sources.entries.map fun e => (e.1, e.2.source)

/-- The attached source with an identity stands under it among the sources. -/
lemma source?_eq_lookupEntry (w : Workspace) (id : String) :
    w.source? id = OrderedMap.lookupEntry id w.sourceSet := by
  rw [source?, sourceSet, OrderedMap.lookupEntry_map]
  rfl

/-- The identities that are loaded are those of the sources in use. -/
lemma enabledIds_eq (w : Workspace) :
    w.enabledIds = (w.sourceSet.filter fun e => e.2.descriptor.enabled).map Prod.fst := by
  rw [sourceSet, List.filter_map, List.map_map]
  rfl

/-- Whether a source is attached is read off the sources. -/
lemma contains_eq (w : Workspace) (id : String) :
    w.sources.contains id = (OrderedMap.lookupEntry id w.sourceSet).isSome := by
  rw [← source?_eq_lookupEntry, source?, Option.isSome_map]
  rfl

/-! ### Alike states do alike -/

/-- Two states have the same files and the same sources, and their catalogues are related. -/
structure Alike (R : Catalogue → Catalogue → Prop) (w w' : Workspace) : Prop where
  files_eq : w'.files = w.files
  place_eq : w'.place = w.place
  sourceSet_eq : w'.sourceSet = w.sourceSet
  related : R w.catalogue w'.catalogue

/-- Notes and signals leave alike states alike. -/
lemma Alike.of_noted {v v' : Workspace} (h : Alike R w w') (hv : w.Noted v) (hv' : w'.Noted v') :
    Alike R v v' := by
  obtain ⟨_, _, rfl⟩ := hv
  obtain ⟨_, _, rfl⟩ := hv'
  exact ⟨h.files_eq, h.place_eq, h.sourceSet_eq, h.related⟩

/-- In alike states the sources give the same. -/
lemma Alike.loadOf?_eq (h : Alike R w w') : w'.loadOf? = w.loadOf? := by
  funext id
  apply loadOf?_congr h.files_eq
  rw [source?_eq_lookupEntry, source?_eq_lookupEntry, h.sourceSet_eq]

/-- Whatever relation merges keep, loading everything keeps. -/
lemma Alike.loadAll (hR : ∀ c c' id rs, R c c' → R (c.merge id rs) (c'.merge id rs))
    (h : Alike R w w') : Alike R w.loadAll.2 w'.loadAll.2 := by
  have hstock : ∀ (ids : List String) (c c' : Catalogue), R c c' →
      R (w.stockEach c ids) (w.stockEach c' ids) := by
    intro ids
    induction ids with
    | nil => exact fun _ _ hc => hc
    | cons id ids ih =>
      intro c c' hc
      rw [stockEach_cons, stockEach_cons]
      apply ih
      cases w.loadOf? id with
      | none => exact hc
      | some l => exact hR _ _ _ _ hc
  have hstocked := stocked_loadAll w
  have hstocked' := stocked_loadAll w'
  refine ⟨?_, ?_, ?_, ?_⟩
  · rw [hstocked.sameGround.files_eq, hstocked'.sameGround.files_eq, h.files_eq]
  · rw [hstocked.sameGround.place_eq, hstocked'.sameGround.place_eq, h.place_eq]
  · rw [sourceSet, sourceSet, hstocked.sources_eq, hstocked'.sources_eq]
    exact h.sourceSet_eq
  · have hsame : w'.stockEach = w.stockEach := by
      funext c ids
      rw [stockEach, stockEach, h.loadOf?_eq]
    rw [catalogue_loadAll, catalogue_loadAll, enabledIds_eq w', h.sourceSet_eq, ← enabledIds_eq,
      hsame]
    exact hstock _ _ _ h.related

/-- A source that joins stands behind the others. -/
lemma sourceSet_attach {d : SourceDescriptor} (h : (w.attach d).1 = .ok true) :
    (w.attach d).2.sourceSet
      = w.sourceSet ++ [(d.sourceId, Source.ofDescriptor w.place d)] := by
  have hnew : d.sourceId ∉ w.sources.keys := by
    intro hmem
    rw [outcome_attach, if_pos (OrderedMap.contains_iff.mpr hmem)] at h
    cases h
  obtain ⟨_, heq⟩ := attach_of_joined h
  rw [heq, sourceSet]
  dsimp only
  rw [OrderedMap.entries_insert_of_not_mem hnew, List.map_append]
  rfl

/-- Attaching a source has the same outcome in alike states. -/
lemma Alike.attach (h : Alike R w w') (d : SourceDescriptor) :
    (w'.attach d).1 = (w.attach d).1 ∧ Alike R (w.attach d).2 (w'.attach d).2 := by
  have houtcome : (w'.attach d).1 = (w.attach d).1 := by
    rw [outcome_attach, outcome_attach, contains_eq, contains_eq, h.sourceSet_eq, h.files_eq,
      h.place_eq]
  have hground := sameGround_attach w d
  have hground' := sameGround_attach w' d
  refine ⟨houtcome, ?_, ?_, ?_, ?_⟩
  · rw [hground.files_eq, hground'.files_eq, h.files_eq]
  · rw [hground.place_eq, hground'.place_eq, h.place_eq]
  · by_cases hjoined : (w.attach d).1 = .ok true
    · rw [sourceSet_attach hjoined, sourceSet_attach (houtcome.trans hjoined), h.sourceSet_eq,
        h.place_eq]
    · obtain ⟨_, _, heq⟩ := attach_of_not_joined hjoined
      obtain ⟨_, _, heq'⟩ := attach_of_not_joined fun hjoined' =>
        hjoined (houtcome.symm.trans hjoined')
      rw [heq, heq']
      exact h.sourceSet_eq
  · rw [catalogue_attach, catalogue_attach]
    exact h.related

/-- Attaching sources comes out the same in alike states, and leaves them alike. -/
lemma Alike.attachEach (h : Alike R w w') (ds : List SourceDescriptor) :
    (attachEach ds w').1 = (attachEach ds w).1 ∧
      Alike R (attachEach ds w).2 (attachEach ds w').2 := by
  induction ds generalizing w w' with
  | nil => exact ⟨rfl, h⟩
  | cons d ds ih =>
    obtain ⟨houtcome, hstep⟩ := h.attach d
    rw [Workspace.attachEach, Workspace.attachEach]
    cases hw : w.attach d with
    | mk outcome v =>
      cases hw' : w'.attach d with
      | mk outcome' v' =>
        rw [hw, hw'] at houtcome hstep
        obtain rfl : outcome' = outcome := houtcome
        cases outcome' with
        | error why => exact ⟨rfl, hstep⟩
        | ok joined => exact ih hstep

/-- States that are alike once they are cleared are alike after a start. -/
lemma Alike.populate (hR : ∀ c c' id rs, R c c' → R (c.merge id rs) (c'.merge id rs))
    (h : Alike R w.cleared w'.cleared) (ds : List SourceDescriptor) :
    Alike R (w.populate ds).2 (w'.populate ds).2 := by
  obtain ⟨houtcome, hattached⟩ := h.attachEach (withDataset ds)
  cases hw : Workspace.attachEach (withDataset ds) w.cleared with
  | mk outcome v =>
    cases hw' : Workspace.attachEach (withDataset ds) w'.cleared with
    | mk outcome' v' =>
      rw [hw, hw'] at houtcome hattached
      obtain rfl : outcome' = outcome := houtcome
      cases outcome' with
      | error why =>
        rw [populate_of_error hw, populate_of_error hw']
        exact hattached
      | ok u =>
        rw [populate_of_ok hw, populate_of_ok hw']
        exact (hattached.loadAll hR).of_noted (noted_finishPopulating v) (noted_finishPopulating v')

/-! ### Commands -/

/-- What may be asked of a workspace: an operation, or to give up its sources and listeners. -/
inductive Command
  /-- An operation. -/
  | operate (op : Operation)
  /-- Give up all sources and listeners. -/
  | dispose

/-- The state behind a command. -/
def Command.apply (w : Workspace) : Command → Workspace
  | operate op => op.apply w
  | dispose => w.dispose

/-- The state after a sequence of commands. -/
def afterCommands (w : Workspace) (cs : List Command) : Workspace :=
  cs.foldl Command.apply w

/-- What holds of the catalogue without records and what loads keep, holds after every sequence of
commands. -/
lemma holds_afterCommands_of_loads {P : Catalogue → Prop} (hempty : P .empty)
    (hload : ∀ {w : Workspace} {id : String} {l : Load} {c : Catalogue}, w.loadOf? id = some l →
      P c → P (c.merge l.id l.records)) (files : FileTree) (place : DatasetPlace)
    (watching : Bool) (cs : List Command) :
    P ((new files place watching).afterCommands cs).catalogue := by
  induction cs using List.reverseRecOn with
  | nil => exact hempty
  | append_singleton cs c ih =>
    rw [afterCommands, List.foldl_concat]
    cases c with
    | operate op => exact holds_operation hempty hload ih op
    | dispose =>
      have hsame := catalogue_releaseAll { ((new files place watching).afterCommands cs) with
        pending := ((new files place watching).afterCommands cs).pending.filter
          fun t => !Task.isChange t }
      exact hsame.symm ▸ ih

/-- What merges keep, loads keep. -/
lemma holds_afterCommands {P : Catalogue → Prop} (hempty : P .empty)
    (hmerge : ∀ c id rs, P c → P (c.merge id rs)) (files : FileTree) (place : DatasetPlace)
    (watching : Bool) (cs : List Command) :
    P ((new files place watching).afterCommands cs).catalogue :=
  holds_afterCommands_of_loads hempty (fun _ => hmerge _ _ _) files place watching cs

/-! ### What a start forgets -/

/-- Two states have the same sources, the same active records and the same audit trail. -/
structure SameContents (w w' : Workspace) : Prop where
  /-- The sources are the same, in the same order. -/
  sourceSet_eq : w'.sourceSet = w.sourceSet
  /-- The active records of each theme are the same, in the same order. -/
  active_eq : ∀ t, w'.registry.active t = w.registry.active t
  /-- The audit trail is the same. -/
  audit_eq : w'.registry.audit = w.registry.audit

/-- Every command leaves a catalogue with a trail; without records in it the catalogue has no
stock. -/
lemma exists_trail (files : FileTree) (place : DatasetPlace) (watching : Bool)
    (cs : List Command) :
    ∃ rs, ((new files place watching).afterCommands cs).registry.Trail rs ∧
      (rs = [] → Catalogue.SameStock .empty
        ((new files place watching).afterCommands cs).catalogue) := by
  apply holds_afterCommands (P := fun c => ∃ rs, c.registry.Trail rs ∧
    (rs = [] → Catalogue.SameStock .empty c))
  · exact ⟨[], Registry.trail_empty, fun _ => Catalogue.SameStock.refl _⟩
  · rintro c id new ⟨rs, htrail, hbare⟩
    refine ⟨rs ++ new, htrail.merge id new, fun hnone => ?_⟩
    obtain ⟨rfl, rfl⟩ := List.append_eq_nil_iff.mp hnone
    exact Catalogue.sameStock_merge_nil (hbare rfl) id

/-- No command changes where the dataset is. -/
lemma place_afterCommands (files : FileTree) (place : DatasetPlace) (watching : Bool)
    (cs : List Command) : ((new files place watching).afterCommands cs).place = place := by
  induction cs using List.reverseRecOn with
  | nil => rfl
  | append_singleton cs c ih =>
    rw [afterCommands, List.foldl_concat]
    cases c with
    | operate op => exact (Operation.sameGround_apply _ op).place_eq.trans ih
    | dispose => exact (sameGround_releaseAll _).place_eq.trans ih

/-- Once it is cleared, a workspace is alike to a new one. -/
lemma alike_cleared (watching : Bool) (hR : R .empty w.cleared.catalogue) :
    Alike R (new w.files w.place watching).cleared w.cleared := by
  have hground := sameGround_cleared w
  refine ⟨hground.files_eq, hground.place_eq, ?_, hR⟩
  rw [sourceSet, sources_cleared]
  rfl

/-- Starting a workspace anew, after any sequence of commands, leaves the same sources, active
records and audit trail as starting a new workspace over the same files, exactly if there was a
source to give up or there were no records. -/
theorem populate_sameContents_iff (files : FileTree) (place : DatasetPlace) (watching : Bool)
    (cs : List Command) (ds : List SourceDescriptor) :
    let w := (new files place watching).afterCommands cs
    SameContents ((new w.files place watching).populate ds).2 (w.populate ds).2
      ↔ w.sources.isEmpty = false ∨ w.registry.size = 0 := by
  intro w
  have hplace : w.place = place := place_afterCommands files place watching cs
  obtain ⟨old, htrail, hbare⟩ : ∃ rs, w.registry.Trail rs ∧
      (rs = [] → Catalogue.SameStock .empty w.catalogue) :=
    exists_trail files place watching cs
  constructor
  · intro hsame
    by_contra hleft
    rw [not_or, Bool.not_eq_false, htrail.size_eq] at hleft
    -- Both trails are extended by the same records, so the left one is longer.
    have hkept : w.cleared.catalogue = w.catalogue := by
      rw [catalogue_cleared, if_pos hleft.1]
    have hlonger : Catalogue.Longer old .empty w.cleared.catalogue := by
      refine ⟨[], Registry.trail_empty, ?_⟩
      rw [hkept, List.append_nil]
      exact htrail
    have halike := (alike_cleared watching hlonger).populate (fun _ _ id rs h => h.merge id rs) ds
    obtain ⟨rs, hrs, hrs'⟩ := halike.related
    rw [hplace] at hrs
    have hsize : (w.populate ds).2.registry.size
        = ((new w.files place watching).populate ds).2.registry.size := by
      rw [Registry.size, Registry.size, hsame.audit_eq]
    have hlength : (old ++ rs).length = rs.length :=
      hrs'.size_eq.symm.trans (hsize.trans hrs.size_eq)
    rw [List.length_append] at hlength
    omega
  · intro hforgets
    have hstock : Catalogue.SameStock .empty w.cleared.catalogue := by
      rw [catalogue_cleared]
      split
      · next hnone =>
        rw [hnone, htrail.size_eq, List.length_eq_zero_iff] at hforgets
        exact hbare (hforgets.resolve_left (Bool.noConfusion))
      · exact Catalogue.SameStock.refl _
    have halike := (alike_cleared watching hstock).populate (fun _ _ id rs h => h.merge id rs) ds
    rw [hplace] at halike
    have hregistry : (w.populate ds).2.registry
        = ((new w.files place watching).populate ds).2.registry := halike.related.registry_eq
    exact ⟨halike.sourceSet_eq, fun t => by rw [hregistry], by rw [hregistry]⟩

/-- A tree with one style sheet. -/
def oneSheet : FileTree :=
  (FileTree.start ["w".toList]).write ["w".toList, "a.css".toList]
    (Utf8.encode ":root \x7b --a: 1px; \x7d".toList)

/-- A dataset that is declared and not in use. -/
def unusedDataset : SourceDescriptor :=
  { SourceDescriptor.builtin builtinPriority with enabled := false }

/-- Once its only source is removed, a workspace has records and no sources, and a start over the
same files keeps the records. -/
theorem populate_keeps_records :
    ¬ SameContents ((new oneSheet .bundled false).populate [unusedDataset]).2
      (((new oneSheet .bundled false).afterCommands
        [.operate (.populate [unusedDataset, ⟨.stylesheet, true, none, some "/w/a.css", false⟩]),
          .operate (.removeSource "stylesheet:/w/a.css")]).populate [unusedDataset]).2 := by
  intro hsame
  have hcount := congrArg OrderedMap.size hsame.audit_eq
  revert hcount
  decide +kernel

end Workspace

end DesignTokens
