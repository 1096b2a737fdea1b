import DesignTokens.Proofs.Catalogue.Trail
import DesignTokens.Proofs.Workspace.Loading

/-!
# Workspaces that are up to date

As long as the files stay what they are, a start and the additions after it leave every record where
it belongs: the catalogue is made of what the attached sources give, and of nothing else
(`UpToDate`).  Which sources are attached follows from the descriptors that were tried, in whatever
order: each source comes from one of them that is valid, and each valid descriptor has a source
under its identity (`AttachedFrom`).
-/

namespace DesignTokens

/-! ### Catalogues made of loads -/

namespace Catalogue

variable {c : Catalogue} {loads : String → Option Load}

/-- The catalogue reflects the loads of the sources, and has no records but theirs. -/
structure ConsistsOf (c : Catalogue) (loads : String → Option Load) : Prop where
  /-- The loads are the latest ones. -/
  reflects : c.Reflects loads
  /-- What was registered is in one of the loads. -/
  trail : ∃ rs, c.registry.Trail rs ∧ ∀ r ∈ rs, ∃ id l, loads id = some l ∧ r ∈ l.records

/-- The empty catalogue is made of no loads at all. -/
lemma consistsOf_empty : empty.ConsistsOf fun _ => none where
  reflects := reflects_empty
  trail := ⟨[], Registry.trail_empty, List.forall_mem_nil _⟩

/-- Merging the load of another source adds it. -/
lemma ConsistsOf.merge (hc : c.ConsistsOf loads) (l : Load)
    (hrank : ∀ r ∈ l.records, r.precedence = l.rank) (hnew : loads l.id = none) :
    (c.merge l.id l.records).ConsistsOf (Function.update loads l.id (some l)) where
  reflects := hc.reflects.merge l hrank
  trail := by
    obtain ⟨rs, hrs, hfrom⟩ := hc.trail
    refine ⟨rs ++ l.records, hrs.merge l.id l.records, List.forall_mem_append.mpr ⟨?_, ?_⟩⟩
    · intro r hr
      obtain ⟨id, l', hl', hr'⟩ := hfrom r hr
      have hid : id ≠ l.id := by
        rintro rfl
        cases hnew.symm.trans hl'
      exact ⟨id, l', by rw [Function.update_of_ne hid, hl'], hr'⟩
    · exact fun r hr => ⟨l.id, l, Function.update_self _ _ _, hr⟩

/-- Every registered record is in a load. -/
lemma ConsistsOf.exists_load (hc : c.ConsistsOf loads) {name : String} {r : TokenRecord}
    (hr : r ∈ c.registry.getAll name) : ∃ id l, loads id = some l ∧ r ∈ l.records := by
  obtain ⟨rs, hrs, hfrom⟩ := hc.trail
  rw [hrs.getAll_eq] at hr
  exact hfrom r (List.mem_of_mem_filter hr)

end Catalogue

namespace Workspace

variable {w w' : Workspace} {id : String} {d : SourceDescriptor} {ds : List SourceDescriptor}

/-! ### Staying up to date -/

/-- The sources stand under their identities, and the catalogue is made of what they give. -/
structure UpToDate (w : Workspace) : Prop where
  /-- A source stands under its identity. -/
  source_id : ∀ {id s}, w.source? id = some s → s.id = id
  /-- The catalogue is made of what the sources give. -/
  consists : w.catalogue.ConsistsOf w.loadOf?

/-- Whether a workspace is up to date depends on the files, the sources and the catalogue only. -/
lemma UpToDate.of_eq (hw : w.UpToDate) (hfiles : w'.files = w.files)
    (hsources : w'.sources = w.sources) (hcatalogue : w'.catalogue = w.catalogue) :
    w'.UpToDate := by
  have hsource : w'.source? = w.source? := by
    funext id
    rw [source?, source?, hsources]
  have hload : w'.loadOf? = w.loadOf? := by
    funext id
    exact loadOf?_congr hfiles (congrFun hsource id)
  refine ⟨?_, ?_⟩
  · rw [hsource]
    exact hw.source_id
  · rw [hload, hcatalogue]
    exact hw.consists

/-- Notes and signals leave a workspace up to date. -/
lemma UpToDate.of_noted (hw : w.UpToDate) (h : w.Noted w') : w'.UpToDate := by
  obtain ⟨_, _, rfl⟩ := h
  exact hw.of_eq rfl rfl rfl

/-- The records of a source that stands under its identity have the rank of the load. -/
lemma precedence_of_loadOf? {l : Load} (hid : ∀ s, w.source? id = some s → s.id = id)
    (h : w.loadOf? id = some l) : ∀ r ∈ l.records, r.precedence = l.rank := by
  obtain ⟨s, rs, hs, hrs, rfl⟩ := loadOf?_eq_some_iff.mp h
  intro r hr
  rw [Source.precedence_of_load hrs r hr, hid s hs]
  rfl

/-- Loading sources into nothing leaves what they give. -/
lemma consistsOf_stockEach (hid : ∀ {id s}, w.source? id = some s → s.id = id) {ids : List String}
    (hids : ids.Nodup) :
    (w.stockEach .empty ids).ConsistsOf fun id => if id ∈ ids then w.loadOf? id else none := by
  induction ids using List.reverseRecOn with
  | nil => exact Catalogue.consistsOf_empty
  | append_singleton ids id ih =>
    have hnew : id ∉ ids := fun hmem => by
      have hdisjoint := (List.nodup_append.mp hids).2.2 id hmem id (List.mem_singleton_self id)
      exact hdisjoint rfl
    specialize ih (List.nodup_append.mp hids).1
    have hstep : w.stockEach .empty (ids ++ [id])
        = (w.stockEach .empty ids).stock (w.loadOf? id) := List.foldl_concat ..
    have hloads : (fun i => if i ∈ ids ++ [id] then w.loadOf? i else none)
        = Function.update (fun i => if i ∈ ids then w.loadOf? i else none) id (w.loadOf? id) := by
      funext i
      rw [Function.update_apply]
      by_cases hi : i = id <;> simp [hi]
    have hnone : (if id ∈ ids then w.loadOf? id else none) = none := if_neg hnew
    rw [hstep, hloads]
    cases hload : w.loadOf? id with
    | none =>
      have hsame := Function.update_eq_self id fun i => if i ∈ ids then w.loadOf? i else none
      rw [hnone] at hsame
      rw [hsame]
      exact ih
    | some l =>
      obtain rfl := id_of_loadOf? hload
      exact ih.merge l (precedence_of_loadOf? (fun s => hid) hload) hnone

/-- No source is attached under an identity exactly if the sources do not contain it. -/
lemma source?_eq_none_iff : w.source? id = none ↔ w.sources.contains id = false := by
  rw [source?, Option.map_eq_none_iff, OrderedMap.contains, Option.isSome_eq_false_iff,
    Option.isNone_iff_eq_none]

/-- A source that joins stands under its identity; the others stay. -/
lemma source?_attach (w : Workspace) (d : SourceDescriptor) (id : String) :
    (w.attach d).2.source? id = if (w.attach d).1 = .ok true ∧ id = d.sourceId
      then some (Source.ofDescriptor w.place d) else w.source? id := by
  by_cases hjoined : (w.attach d).1 = .ok true
  · obtain ⟨_, heq⟩ := attach_of_joined hjoined
    rw [heq, source?]
    dsimp only
    rw [OrderedMap.get?_insert]
    by_cases hid : id = d.sourceId
    · rw [if_pos hid.symm, if_pos ⟨hjoined, hid⟩]
      rfl
    · rw [if_neg (Ne.symm hid), if_neg fun h => hid h.2]
      rfl
  · obtain ⟨_, _, heq⟩ := attach_of_not_joined hjoined
    rw [heq, if_neg fun h => hjoined h.1]
    rfl

/-- A source that joins was not there. -/
lemma source?_eq_none_of_joined (h : (w.attach d).1 = .ok true) : w.source? d.sourceId = none := by
  rw [outcome_attach] at h
  rw [source?_eq_none_iff, ← Bool.not_eq_true]
  intro hthere
  rw [if_pos hthere] at h
  cases h

/-- A source that joins is valid. -/
lemma isValid_of_joined (h : (w.attach d).1 = .ok true) :
    (Source.ofDescriptor w.place d).isValid w.files = .ok true := by
  have hnew := source?_eq_none_iff.mp (source?_eq_none_of_joined h)
  rwa [outcome_attach, hnew] at h

/-- An addition has the outcome of attaching the source. -/
lemma outcome_addSource (w : Workspace) (d : SourceDescriptor) :
    (w.addSource d).1 = (w.attach d).1 := by
  by_cases h : (w.attach d).1 = .ok true
  · rw [addSource_of_joined h, h]
  · rw [addSource_of_not_joined h]

/-- The load in an addition changes no sources. -/
lemma sources_addSource (w : Workspace) (d : SourceDescriptor) :
    (w.addSource d).2.sources = (w.attach d).2.sources := by
  by_cases h : (w.attach d).1 = .ok true
  · rw [addSource_of_joined h]
    exact (noted_loadAdded _ _).stocked.sources_eq.trans
      ((stocked_loadSource _ _).sources_eq.trans (noted_fireSources _).sameStore.sources_eq)
  · rw [addSource_of_not_joined h]

/-- The load in an addition changes no attached source. -/
lemma source?_addSource (w : Workspace) (d : SourceDescriptor) (id : String) :
    (w.addSource d).2.source? id = (w.attach d).2.source? id := by
  rw [source?, source?, sources_addSource]

/-- An addition keeps a workspace up to date. -/
lemma UpToDate.addSource (hw : w.UpToDate) (d : SourceDescriptor) : (w.addSource d).2.UpToDate := by
  by_cases hjoined : (w.attach d).1 = .ok true
  · have hground := sameGround_addSource w d
    have hattach := sameGround_attach w d
    -- Only the source that joins gets a latest load, where there was none.
    have hloads : (w.addSource d).2.loadOf?
        = Function.update w.loadOf? d.sourceId ((w.attach d).2.loadOf? d.sourceId) := by
      funext id
      rw [Function.update_apply]
      split
      · next hid =>
        rw [hid]
        exact loadOf?_congr (hground.files_eq.trans hattach.files_eq.symm) (source?_addSource w d _)
      · next hid =>
        refine loadOf?_congr hground.files_eq ?_
        rw [source?_addSource, source?_attach, if_neg fun h => hid h.2]
    have hid : ∀ {id s}, (w.attach d).2.source? id = some s → s.id = id := by
      intro id s hs
      rw [source?_attach] at hs
      split at hs
      · next h =>
        cases hs
        rw [Source.id_ofDescriptor, h.2]
      · exact hw.source_id hs
    have hnone : w.loadOf? d.sourceId = none := by
      rw [loadOf?, source?_eq_none_of_joined hjoined]
      rfl
    refine ⟨?_, ?_⟩
    · intro id s hs
      rw [source?_addSource] at hs
      exact hid hs
    · rw [hloads, catalogue_addSource, if_pos hjoined]
      cases hload : (w.attach d).2.loadOf? d.sourceId with
      | none =>
        have hsame := Function.update_eq_self d.sourceId w.loadOf?
        rw [hnone] at hsame
        rw [hsame]
        exact hw.consists
      | some l =>
        have hl := id_of_loadOf? hload
        rw [← hl] at hload hnone ⊢
        exact hw.consists.merge l (precedence_of_loadOf? (fun s => hid) hload) hnone
  · rw [addSource_of_not_joined hjoined]
    exact hw.of_noted (attach_of_not_joined hjoined)

/-! ### Which sources are attached -/

/-- The sources are those of the descriptors. -/
structure AttachedFrom (w : Workspace) (ds : List SourceDescriptor) : Prop where
  /-- Each source comes from a valid descriptor. -/
  origin : ∀ {id s}, w.source? id = some s → ∃ d ∈ ds, s = Source.ofDescriptor w.place d ∧
    d.sourceId = id ∧ s.isValid w.files = .ok true
  /-- Each valid descriptor has a source under its identity. -/
  complete : ∀ d ∈ ds, (Source.ofDescriptor w.place d).isValid w.files = .ok true →
    (w.source? d.sourceId).isSome

/-- Which descriptors the sources are from depends on the files, the place and the sources only. -/
lemma AttachedFrom.congr (hw : w.AttachedFrom ds) (hfiles : w'.files = w.files)
    (hplace : w'.place = w.place) (hsources : w'.sources = w.sources) : w'.AttachedFrom ds := by
  have hsource : w'.source? = w.source? := by
    funext id
    rw [source?, source?, hsources]
  refine ⟨?_, ?_⟩
  · rw [hfiles, hplace, hsource]
    exact hw.origin
  · rw [hfiles, hplace, hsource]
    exact hw.complete

/-- Stocking the records leaves the sources those of the same descriptors. -/
lemma AttachedFrom.of_stocked (hw : w.AttachedFrom ds) (h : w.Stocked w') : w'.AttachedFrom ds :=
  hw.congr h.sameGround.files_eq h.sameGround.place_eq h.sources_eq

/-- A workspace without sources has those of an empty list of descriptors. -/
lemma attachedFrom_nil (h : w.sources = .empty) : w.AttachedFrom [] where
  origin := by
    intro id s hs
    rw [source?, h] at hs
    cases hs
  complete := List.forall_mem_nil _

/-- A descriptor that is tried, with an outcome, is one more that the sources come from. -/
lemma AttachedFrom.attach (hw : w.AttachedFrom ds) {joined : Bool}
    (h : (w.attach d).1 = .ok joined) : (w.attach d).2.AttachedFrom (ds ++ [d]) := by
  have hground := sameGround_attach w d
  refine ⟨?_, ?_⟩
  · intro id s hs
    rw [hground.place_eq, hground.files_eq]
    rw [source?_attach] at hs
    split at hs
    · next hnew =>
      cases hs
      exact ⟨d, by simp, rfl, hnew.2.symm, isValid_of_joined hnew.1⟩
    · obtain ⟨d', hd', hrest⟩ := hw.origin hs
      exact ⟨d', List.mem_append_left [d] hd', hrest⟩
  · intro d' hd' hvalid
    rw [hground.place_eq, hground.files_eq] at hvalid
    rw [source?_attach]
    split
    · rfl
    · next hold =>
      rcases List.mem_append.mp hd' with hd' | hd'
      · exact hw.complete d' hd' hvalid
      · -- A valid descriptor that does not join has the identity of a source that is there.
        obtain rfl := List.mem_singleton.mp hd'
        by_contra hnone
        rw [Bool.not_eq_true, Option.isSome_eq_false_iff, Option.isNone_iff_eq_none] at hnone
        refine hold ⟨?_, rfl⟩
        rw [outcome_attach, source?_eq_none_iff.mp hnone]
        exact hvalid

/-- An addition that ends tries one descriptor more. -/
lemma AttachedFrom.addSource (hw : w.AttachedFrom ds) {joined : Bool}
    (h : (w.addSource d).1 = .ok joined) : (w.addSource d).2.AttachedFrom (ds ++ [d]) := by
  rw [outcome_addSource] at h
  have hground := sameGround_addSource w d
  have hattach := sameGround_attach w d
  exact (hw.attach h).congr (hground.files_eq.trans hattach.files_eq.symm)
    (hground.place_eq.trans hattach.place_eq.symm) (sources_addSource w d)

/-- Attaching sources tries their descriptors. -/
lemma AttachedFrom.attachEach {before : List SourceDescriptor} (hw : w.AttachedFrom before)
    (h : Workspace.attachEach ds w = (.ok (), w')) : w'.AttachedFrom (before ++ ds) := by
  induction ds generalizing w before with
  | nil =>
    cases h
    rwa [List.append_nil]
  | cons d ds ih =>
    rw [Workspace.attachEach] at h
    split at h
    · cases h
    · next joined v hv =>
      have hstep : v.AttachedFrom (before ++ [d]) := by
        have houtcome : (w.attach d).1 = .ok joined := by rw [hv]
        have hattach := hw.attach houtcome
        rwa [hv] at hattach
      have hrest := ih hstep h
      rwa [List.append_assoc] at hrest

/-! ### A start -/

/-- A valid source is in use. -/
lemma enabled_of_isValid {f : FileTree} {s : Source} (h : s.isValid f = .ok true) :
    s.descriptor.enabled = true := by
  by_contra hdisabled
  rw [Source.isValid, Bool.not_eq_true] at *
  rw [hdisabled] at h
  cases h

/-- Sources that come from descriptors are enabled and stand under their identities. -/
lemma AttachedFrom.enabledIds_eq (hw : w.AttachedFrom ds) : w.enabledIds = w.sources.keys := by
  have hall : ∀ e ∈ w.sources.entries, e.2.source.descriptor.enabled = true := by
    rintro ⟨id, a⟩ he
    have hs : w.source? id = some a.source := by
      rw [source?, OrderedMap.mem_entries_iff.mp he]
      rfl
    obtain ⟨d, -, -, -, hvalid⟩ := hw.origin hs
    exact enabled_of_isValid hvalid
  rw [enabledIds, List.filter_eq_self.mpr hall]
  rfl

/-- A source that comes from a descriptor stands under its identity. -/
lemma AttachedFrom.source_id (hw : w.AttachedFrom ds) {s : Source} (hs : w.source? id = some s) :
    s.id = id := by
  obtain ⟨d, -, rfl, hid, -⟩ := hw.origin hs
  rw [Source.id_ofDescriptor, hid]

/-- Loading everything into nothing brings a workspace up to date. -/
lemma AttachedFrom.upToDate_loadAll (hw : w.AttachedFrom ds) (hbare : w.catalogue = .empty) :
    w.loadAll.2.UpToDate := by
  have hstocked := stocked_loadAll w
  refine ⟨(hw.of_stocked hstocked).source_id, ?_⟩
  rw [catalogue_loadAll, hstocked.loadOf?_eq, hbare, hw.enabledIds_eq]
  have hloads : (fun id => if id ∈ w.sources.keys then w.loadOf? id else none) = w.loadOf? := by
    funext id
    split
    · rfl
    · next hid =>
      have hnone : w.source? id = none := by
        rw [source?_eq_none_iff, ← Bool.not_eq_true, OrderedMap.contains_iff]
        exact hid
      rw [loadOf?, hnone]
      rfl
  have hkeys : w.sources.keys.Nodup := w.sources.nodup_keys
  have hconsists := consistsOf_stockEach hw.source_id hkeys
  rwa [hloads] at hconsists

/-- A start that is carried out, from a state without records, has the sources of its descriptors
and is up to date. -/
lemma populate_of_bare {results : List LoadResult} (hbare : w.cleared.catalogue = .empty)
    (h : w.populate ds = (.ok results, w')) : w'.AttachedFrom (withDataset ds) ∧ w'.UpToDate := by
  have hcatalogue := catalogue_attachEach (withDataset ds) w.cleared
  cases hattach : Workspace.attachEach (withDataset ds) w.cleared with
  | mk outcome v =>
    rw [hattach] at hcatalogue
    cases outcome with
    | error why =>
      rw [populate_of_error hattach] at h
      cases h
    | ok u =>
      rw [populate_of_ok hattach] at h
      cases h
      have hfrom : v.AttachedFrom ([] ++ withDataset ds) :=
        (attachedFrom_nil (sources_cleared w)).attachEach hattach
      rw [List.nil_append] at hfrom
      have hfinish := noted_finishPopulating v
      exact ⟨hfrom.of_stocked ((stocked_loadAll v).trans hfinish.stocked),
        (hfrom.upToDate_loadAll (hcatalogue.trans hbare)).of_noted hfinish⟩

end Workspace

end DesignTokens
