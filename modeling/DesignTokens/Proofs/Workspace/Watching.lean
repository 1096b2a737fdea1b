import DesignTokens.Proofs.Watch.Hub
import DesignTokens.Proofs.Workspace.Freshness
import DesignTokens.Proofs.Workspace.UpToDate
import DesignTokens.Workspace.Following

/-!
# Sources that are watched

A workspace that watches the files of its sources is told about changes by file events.  An event
reaches the debouncers of the watches that it concerns, their timers ask for loads, and the loads
are done later, while sources come and go and files change again.

Each watched source is fresh, or a change of its file has been noticed and will lead to a load, or
something is owed to it (`Heeds`).  Everything that is done to a workspace keeps this, as long as it
is on its guard (`Posted`); what is owed is made up for when the watch of the source is told about
an event that names its file (`Heeds.handle`, `Heeds.deliverTo`).
-/

namespace DesignTokens

namespace Workspace

variable {w w' : Workspace} {id : String} {a : Attachment} {p : Path} {ids : List String}
  {owed : String → Path → Prop}

/-! ### What is known of watched sources -/

/-- If the file of a source is to be watched, the watch of the source is on that file, on behalf of
the source, and its observer runs. -/
def IsWatched (w : Workspace) (id : String) (a : Attachment) : Prop :=
  ∀ p, a.source.watched? = some p →
    ∃ n, a.watch = some n ∧ w.hub.target? n = some (p, id) ∧ .file n ∈ w.hub.observers

/-- A change of the file has been noticed: the watch has gathered something, or the source is about
to be loaded. -/
def Noticed (w : Workspace) (id : String) (a : Attachment) : Prop :=
  (∃ n, a.watch = some n ∧ w.hub.gathered n ≠ []) ∨ .change id ∈ w.pending ++ w.scheduled

/-- Files are watched, nothing is searched for, and every source is in use and watched. -/
structure Posted (w : Workspace) : Prop where
  /-- Files are watched. -/
  watching_eq : w.watching = true
  /-- Nothing is searched for. -/
  discoveries_eq : w.discoveries = []
  /-- What was gathered has a live timer. -/
  timed : w.hub.IsTimed
  /-- A source has candidates only for the keys that it contributed. -/
  keyed : w.catalogue.Keyed
  /-- Sources are in use. -/
  enabled : ∀ {id a}, w.sources.get? id = some a → a.source.descriptor.enabled = true
  /-- Sources are watched. -/
  watched : ∀ {id a}, w.sources.get? id = some a → w.IsWatched id a

/-- Each watched source is fresh, or a change of its file has been noticed, or something is owed to
it. -/
def Heeds (w : Workspace) (owed : String → Path → Prop) : Prop :=
  ∀ ⦃id a p⦄, w.sources.get? id = some a → a.source.watched? = some p →
    w.Fresh id ∨ w.Noticed id a ∨ owed id p

/-- Watched sources stay heeded if more is owed to them. -/
lemma Heeds.mono {owed' : String → Path → Prop} (h : w.Heeds owed)
    (hle : ∀ id p, owed id p → owed' id p) : w.Heeds owed' :=
  fun id _ p ha hp => (h ha hp).imp_right (Or.imp_right (hle id p))

/-- A source stays watched as long as targets and observers are kept. -/
lemma IsWatched.of_keeps (h : w.IsWatched id a) (hkeeps : w.hub.Keeps w'.hub) :
    w'.IsWatched id a := by
  intro p hp
  obtain ⟨n, hn, htarget, hobserver⟩ := h p hp
  exact ⟨n, hn, hkeeps.target htarget, hkeeps.observer hobserver⟩

/-- A workspace stays on its guard if what keeps it so stays. -/
lemma Posted.of_eq (hw : w.Posted) (hwatching : w'.watching = w.watching)
    (hdiscoveries : w'.discoveries = w.discoveries) (hhub : w'.hub = w.hub)
    (hsources : w'.sources = w.sources) (hkeyed : w'.catalogue.Keyed) : w'.Posted where
  watching_eq := hwatching.trans hw.watching_eq
  discoveries_eq := hdiscoveries.trans hw.discoveries_eq
  timed := by
    rw [hhub]
    exact hw.timed
  keyed := hkeyed
  enabled := by
    rw [hsources]
    exact hw.enabled
  watched := by
    intro id a ha
    rw [hsources] at ha
    exact (hw.watched ha).of_keeps (hhub.symm ▸ Hub.Keeps.refl _)

/-! ### Loads -/

/-- Stocking the records leaves a workspace on its guard. -/
lemma Posted.of_stocked (hw : w.Posted) (hs : w.Stocked w') (hkeyed : w'.catalogue.Keyed) :
    w'.Posted := by
  obtain ⟨_, _, _, rfl⟩ := hs
  exact hw.of_eq rfl rfl rfl rfl hkeyed

/-- After loads there are candidates only for contributed keys, if it was so before. -/
lemma keyed_stockEach {c : Catalogue} (hc : c.Keyed) (w : Workspace) (ids : List String) :
    (w.stockEach c ids).Keyed :=
  holds_stockEach (fun _ hc => hc.merge _ _) w ids hc

/-- Where nothing but loads happens, the sources that are loaded are fresh, and the others are
heeded as before. -/
lemma Heeds.of_stockEach (h : w.Heeds fun id p => id ∈ ids ∨ owed id p) (hw : w.Posted)
    (hs : w.Stocked w') (hcatalogue : w'.catalogue = w.stockEach w.catalogue ids) :
    w'.Posted ∧ w'.Heeds owed := by
  refine ⟨hw.of_stocked hs (hcatalogue ▸ keyed_stockEach hw.keyed w ids), ?_⟩
  intro id a p ha hp
  rw [hs.sources_eq] at ha
  rcases h ha hp with hfresh | hnoticed | hid | howed
  · exact Or.inl (fresh_of_stockEach hs hcatalogue hw.keyed (Or.inr hfresh))
  · obtain ⟨_, _, _, rfl⟩ := hs
    exact Or.inr (Or.inl hnoticed)
  · exact Or.inl (fresh_of_stockEach hs hcatalogue hw.keyed (Or.inl hid))
  · exact Or.inr (Or.inr howed)

/-- On its guard, a workspace loads every attached source. -/
lemma Posted.mem_enabledIds (hw : w.Posted) (ha : w.sources.get? id = some a) :
    id ∈ w.enabledIds :=
  List.mem_map.mpr ⟨(id, a), List.mem_filter.mpr
    ⟨OrderedMap.mem_entries_iff.mpr ha, hw.enabled ha⟩, rfl⟩

/-- Loading everything makes every source fresh, whatever there was before. -/
lemma Posted.of_stockEach (hw : w.Posted) {c : Catalogue} (hc : c.Keyed)
    (hs : w.Stocked w') (hcatalogue : w'.catalogue = w.stockEach c w.enabledIds) :
    w'.Posted ∧ w'.Heeds owed := by
  refine ⟨hw.of_stocked hs (hcatalogue ▸ keyed_stockEach hc w _), ?_⟩
  intro id a p ha hp
  rw [hs.sources_eq] at ha
  exact Or.inl (fresh_of_stockEach hs hcatalogue hc (Or.inl (hw.mem_enabledIds ha)))

/-! ### Sources come and go -/

/-- The watch of a source that joins. -/
lemma watch_of_posted (hw : w.Posted) (s : Source) :
    (s.watched? = none ∧ (w.watch s).1 = none ∧ (w.watch s).2.hub = w.hub) ∨
      ∃ p, s.watched? = some p ∧ (w.watch s).1 = some w.hub.watches.length ∧
        (w.watch s).2.hub = (w.hub.addWatch p s.id).start w.hub.watches.length := by
  have hcases := w.watch_cases s
  rw [hw.watching_eq, if_pos rfl] at hcases
  rcases hcases with ⟨hnone, heq⟩ | ⟨p, hp, heq⟩
  · rw [heq]
    exact Or.inl ⟨hnone, rfl, rfl⟩
  · rw [heq]
    exact Or.inr ⟨p, hp, rfl, rfl⟩

/-- Watching a file keeps targets, observers and what was gathered, and the watches timed. -/
lemma keeps_watch (hw : w.Posted) (s : Source) :
    w.hub.Keeps (w.watch s).2.hub ∧ (w.watch s).2.hub.IsTimed ∧
      ∀ n, (w.watch s).2.hub.gathered n = w.hub.gathered n := by
  rcases watch_of_posted hw s with ⟨-, -, hhub⟩ | ⟨p, -, -, hhub⟩
  · rw [hhub]
    exact ⟨Hub.Keeps.refl _, hw.timed, fun _ => rfl⟩
  · obtain ⟨observers, heq, -⟩ := (w.hub.addWatch p s.id).start_eq w.hub.watches.length
    refine ⟨hhub ▸ Hub.keeps_addWatch_start _ _ _ _, ?_, fun n => ?_⟩
    · rw [hhub, heq]
      exact (hw.timed.addWatch p s.id).of_eq rfl rfl
    · rw [hhub, heq]
      exact congrArg Debouncer.pending (Hub.debouncer_addWatch p s.id n)

/-- A source whose file is watched is watched. -/
lemma isWatched_watch (hw : w.Posted) (s : Source) (hhub : w'.hub = (w.watch s).2.hub) :
    w'.IsWatched s.id ⟨s, (w.watch s).1⟩ := by
  intro p hp
  rcases watch_of_posted hw s with ⟨hnone, -, -⟩ | ⟨q, hq, hn, heq⟩
  · cases hnone.symm.trans hp
  · cases hq.symm.trans hp
    obtain ⟨observers, hstart, hself, -⟩ := (w.hub.addWatch p s.id).start_eq w.hub.watches.length
    refine ⟨w.hub.watches.length, hn, ?_, ?_⟩
    · rw [hhub, heq, hstart]
      exact Hub.target?_addWatch_self p s.id
    · rw [hhub, heq, hstart]
      exact hself

/-- Notes and signals leave a workspace on its guard. -/
lemma Posted.of_noted (hw : w.Posted) (h : w.Noted w') : w'.Posted := by
  obtain ⟨_, _, rfl⟩ := h
  exact hw.of_eq rfl rfl rfl rfl hw.keyed

/-- A source that joins is watched, and the others go on being so. -/
lemma Posted.attach (hw : w.Posted) (d : SourceDescriptor) : (w.attach d).2.Posted := by
  by_cases hjoined : (w.attach d).1 = .ok true
  · have hground := sameGround_attach w d
    have hcatalogue := catalogue_attach w d
    obtain ⟨hkeeps, htimed, -⟩ := keeps_watch hw (Source.ofDescriptor w.place d)
    have hvalid := isValid_of_joined hjoined
    obtain ⟨journal, heq⟩ := attach_of_joined hjoined
    have hhub : (w.attach d).2.hub = (w.watch (Source.ofDescriptor w.place d)).2.hub := by rw [heq]
    have hsources : ∀ {id a}, (w.attach d).2.sources.get? id = some a →
        (id = d.sourceId ∧ a = ⟨Source.ofDescriptor w.place d,
          (w.watch (Source.ofDescriptor w.place d)).1⟩) ∨ w.sources.get? id = some a := by
      intro id a ha
      rw [heq] at ha
      dsimp only at ha
      rw [OrderedMap.get?_insert] at ha
      split at ha
      · next hid =>
        cases ha
        exact Or.inl ⟨hid.symm, rfl⟩
      · exact Or.inr ha
    refine ⟨hground.watching_eq.trans hw.watching_eq,
      hground.discoveries_eq.trans hw.discoveries_eq, hhub ▸ htimed, hcatalogue ▸ hw.keyed, ?_, ?_⟩
    · intro id a ha
      rcases hsources ha with ⟨-, rfl⟩ | hold
      · exact enabled_of_isValid hvalid
      · exact hw.enabled hold
    · intro id a ha
      rcases hsources ha with ⟨rfl, rfl⟩ | hold
      · have hwatched := isWatched_watch hw (Source.ofDescriptor w.place d) hhub
        rwa [Source.id_ofDescriptor] at hwatched
      · exact (hw.watched hold).of_keeps (hhub ▸ hkeeps)
  · exact hw.of_noted (attach_of_not_joined hjoined)

/-- What is known of a source stays known as long as it stays attached, its watch keeps what it has
gathered, and no work is dropped. -/
lemma heeded_of_kept {owes : Prop} (h : w.Fresh id ∨ w.Noticed id a ∨ owes)
    (hfiles : w'.files = w.files) (hcatalogue : w'.catalogue = w.catalogue)
    (ha : w.sources.get? id = some a) (ha' : w'.sources.get? id = some a)
    (hgathered : ∀ n, a.watch = some n → w.hub.gathered n ≠ [] → w'.hub.gathered n ≠ [])
    (htasks : ∀ t ∈ w.pending ++ w.scheduled, t ∈ w'.pending ++ w'.scheduled) :
    w'.Fresh id ∨ w'.Noticed id a ∨ owes := by
  have hsource : w'.source? id = w.source? id := by rw [source?, source?, ha, ha']
  refine h.imp (fun hfresh => hfresh.of_eq hfiles hsource hcatalogue) (Or.imp_left ?_)
  rintro (⟨n, hn, hne⟩ | htask)
  · exact Or.inl ⟨n, hn, hgathered n hn hne⟩
  · exact Or.inr (htasks _ htask)

/-- What is known of the others stays known when a source joins. -/
lemma Heeds.attach (h : w.Heeds owed) (hw : w.Posted) (d : SourceDescriptor)
    (hjoined : (w.attach d).1 = .ok true) :
    (w.attach d).2.Heeds fun id p => id ∈ [d.sourceId] ∨ owed id p := by
  intro id a p ha hp
  by_cases hid : id = d.sourceId
  · exact Or.inr (Or.inr (Or.inl (List.mem_singleton.mpr hid)))
  · have hground := sameGround_attach w d
    have hcatalogue := catalogue_attach w d
    obtain ⟨-, -, hgathered⟩ := keeps_watch hw (Source.ofDescriptor w.place d)
    obtain ⟨journal, heq⟩ := attach_of_joined hjoined
    have hhub : (w.attach d).2.hub = (w.watch (Source.ofDescriptor w.place d)).2.hub := by rw [heq]
    have hold : w.sources.get? id = some a := by
      rw [heq] at ha
      dsimp only at ha
      rwa [OrderedMap.get?_insert, if_neg (Ne.symm hid)] at ha
    have howed : w.Fresh id ∨ w.Noticed id a ∨ id ∈ [d.sourceId] ∨ owed id p :=
      (h hold hp).imp_right (Or.imp_right Or.inr)
    refine heeded_of_kept howed hground.files_eq hcatalogue hold ha (fun n _ hne => ?_) ?_
    · rw [hhub]
      exact (hgathered n).trans_ne hne
    · rw [hground.pending_eq, hground.scheduled_eq]
      exact fun _ ht => ht

/-- An addition keeps every watched source heeded. -/
lemma Heeds.addSource (h : w.Heeds owed) (hw : w.Posted) (d : SourceDescriptor) :
    (w.addSource d).2.Posted ∧ (w.addSource d).2.Heeds owed := by
  by_cases hjoined : (w.attach d).1 = .ok true
  · have hattached := hw.attach d
    have hfired := noted_fireSources (w.attach d).2
    have hstocked : (w.attach d).2.Stocked (w.addSource d).2 := by
      rw [addSource_of_joined hjoined]
      exact hfired.stocked.trans ((stocked_loadSource _ _).trans (noted_loadAdded _ _).stocked)
    have hcatalogue : (w.addSource d).2.catalogue
        = (w.attach d).2.stockEach (w.attach d).2.catalogue [d.sourceId] := by
      rw [catalogue_addSource, if_pos hjoined, catalogue_attach]
      rfl
    exact (h.attach hw d hjoined).of_stockEach hattached hstocked hcatalogue
  · rw [addSource_of_not_joined hjoined]
    have hnoted := attach_of_not_joined hjoined
    refine ⟨hw.of_noted hnoted, ?_⟩
    obtain ⟨_, _, heq⟩ := hnoted
    rw [heq]
    exact h

/-- Giving up a source stops its watch, if it has one. -/
lemma hub_release (w : Workspace) (a : Attachment) :
    (w.release a).hub = match a.watch, a.source.watched? with
      | some n, some _ => w.hub.stop n
      | _, _ => w.hub := by
  obtain ⟨_, heq⟩ := w.release_eq a
  exact heq ▸ rfl

/-- Giving up a source keeps the watches timed. -/
lemma isTimed_release (hh : w.hub.IsTimed) (a : Attachment) : (w.release a).hub.IsTimed := by
  rw [hub_release]
  split
  · exact hh.stop _
  · exact hh

/-- A source that is removed is no longer among the others, and it is given up. -/
lemma removeSource_of_some (ha : w.sources.get? id = some a) :
    (w.removeSource id).2.sources = w.sources.erase id ∧
      (w.removeSource id).2.hub = (w.release a).hub := by
  obtain ⟨journal, heq⟩ := release_eq { w with sources := w.sources.erase id } a
  have hnoted : ({ w with sources := w.sources.erase id }.release a).Noted
      (w.removeSource id).2 := by
    rw [Workspace.removeSource, ha]
    exact (noted_remark _ _ _).trans (noted_fireSources _)
  obtain ⟨_, _, hremoved⟩ := hnoted
  rw [hremoved, heq, hub_release]
  exact ⟨rfl, rfl⟩

/-- Removing a source that is not attached does nothing. -/
lemma removeSource_of_none (ha : w.sources.get? id = none) : (w.removeSource id).2 = w := by
  rw [Workspace.removeSource, ha]

/-- Removing a source leaves the watches of the others alone. -/
lemma spared_removeSource (hw : w.Posted) {id' : String} {a' : Attachment}
    (ha' : (w.removeSource id).2.sources.get? id' = some a') :
    w.sources.get? id' = some a' ∧ ∀ n p', a'.watch = some n → w.hub.target? n = some (p', id') →
      (w.removeSource id).2.hub.target? n = some (p', id') ∧
      (w.removeSource id).2.hub.gathered n = w.hub.gathered n ∧
      (.file n ∈ w.hub.observers → .file n ∈ (w.removeSource id).2.hub.observers) := by
  cases ha : w.sources.get? id with
  | none =>
    rw [removeSource_of_none ha] at ha' ⊢
    exact ⟨ha', fun n p' _ htarget => ⟨htarget, rfl, fun ho => ho⟩⟩
  | some a =>
    obtain ⟨hsources, hhub⟩ := removeSource_of_some ha
    rw [hsources, OrderedMap.get?_erase] at ha'
    split at ha'
    · cases ha'
    · next hne =>
      refine ⟨ha', fun n p' _ htarget => ?_⟩
      rw [hhub, hub_release]
      split
      · next m q hm hq =>
        -- The watch that is stopped is on behalf of the source that is removed.
        have hnm : n ≠ m := by
          rintro rfl
          obtain ⟨k, hk, hsubject, -⟩ := hw.watched ha q hq
          cases hm.symm.trans hk
          cases htarget.symm.trans hsubject
          exact hne rfl
        exact ⟨Hub.target?_stop.trans htarget, Hub.gathered_stop_of_ne hnm,
          Hub.mem_observers_stop_of_ne hnm⟩
      · exact ⟨htarget, rfl, fun ho => ho⟩

/-- A removal leaves a workspace on its guard. -/
lemma Posted.removeSource (hw : w.Posted) (id : String) : (w.removeSource id).2.Posted where
  watching_eq := (sameGround_removeSource w id).watching_eq.trans hw.watching_eq
  discoveries_eq := (sameGround_removeSource w id).discoveries_eq.trans hw.discoveries_eq
  timed := by
    cases ha : w.sources.get? id with
    | none => rw [removeSource_of_none ha]; exact hw.timed
    | some a => exact (removeSource_of_some ha).2 ▸ isTimed_release hw.timed a
  keyed := (catalogue_removeSource w id).symm ▸ hw.keyed
  enabled := fun ha => hw.enabled (spared_removeSource hw ha).1
  watched := by
    intro id' a' ha' p' hp'
    obtain ⟨hold, hspared⟩ := spared_removeSource hw ha'
    obtain ⟨n, hn, htarget, hobserver⟩ := hw.watched hold p' hp'
    obtain ⟨htarget', -, hobserver'⟩ := hspared n p' hn htarget
    exact ⟨n, hn, htarget', hobserver' hobserver⟩

/-- Removing a source leaves alone what is known of the others. -/
lemma Heeds.removeSource (h : w.Heeds owed) (hw : w.Posted) (id : String) :
    (w.removeSource id).2.Heeds owed := by
  intro id' a' p' ha' hp'
  have hground := sameGround_removeSource w id
  obtain ⟨hold, hspared⟩ := spared_removeSource hw ha'
  obtain ⟨n, hn, htarget, -⟩ := hw.watched hold p' hp'
  refine heeded_of_kept (h hold hp') hground.files_eq (catalogue_removeSource w id) hold ha' ?_ ?_
  · intro m hm hne
    cases hn.symm.trans hm
    exact (hspared n p' hn htarget).2.1.trans_ne hne
  · rw [hground.pending_eq, hground.scheduled_eq]
    exact fun _ ht => ht

/-- Giving up sources keeps the watches timed. -/
lemma isTimed_foldl_release (hh : w.hub.IsTimed) (as : List Attachment) :
    (as.foldl release w).hub.IsTimed := by
  induction as generalizing w with
  | nil => exact hh
  | cons a as ih => exact ih (isTimed_release hh a)

/-- Without sources there is nothing to be watched. -/
lemma Posted.cleared (hw : w.Posted) : w.cleared.Posted where
  watching_eq := (sameGround_cleared w).watching_eq.trans hw.watching_eq
  discoveries_eq := (sameGround_cleared w).discoveries_eq.trans hw.discoveries_eq
  timed := by
    unfold Workspace.cleared
    split
    · exact hw.timed
    · have hremarked : (w.remark .info "Initializing token sources").hub.IsTimed := hw.timed
      exact isTimed_foldl_release hremarked _
  keyed := by
    rw [catalogue_cleared]
    split
    · exact hw.keyed
    · exact Catalogue.keyed_empty
  enabled := by
    intro id a ha
    rw [sources_cleared] at ha
    cases ha
  watched := by
    intro id a ha
    rw [sources_cleared] at ha
    cases ha

/-- A start that is carried out makes every source fresh. -/
lemma Posted.populate (hw : w.Posted) {ds : List SourceDescriptor} {results : List LoadResult}
    (h : w.populate ds = (.ok results, w')) : w'.Posted ∧ w'.Heeds owed := by
  have hattached : (attachEach (withDataset ds) w.cleared).2.Posted :=
    attachEach_induction (fun w d hw => hw.attach d) _ hw.cleared
  cases hattach : attachEach (withDataset ds) w.cleared with
  | mk outcome v =>
    rw [hattach] at hattached
    cases outcome with
    | error why =>
      rw [populate_of_error hattach] at h
      cases h
    | ok u =>
      rw [populate_of_ok hattach] at h
      cases h
      have hstocked := (stocked_loadAll v).trans (noted_finishPopulating v).stocked
      have hcatalogue : v.finishPopulating.2.catalogue
          = v.stockEach v.catalogue v.enabledIds :=
        (noted_finishPopulating v).catalogue_eq.trans (catalogue_loadAll v)
      exact hattached.of_stockEach hattached.keyed hstocked hcatalogue

/-- Files may change as long as the sources whose files do are owed something. -/
lemma Heeds.setFiles (h : w.Heeds owed) {files : FileTree}
    (howed : ∀ id a p, w.sources.get? id = some a → a.source.watched? = some p →
      files.readText p ≠ w.files.readText p → owed id p) :
    ({ w with files } : Workspace).Heeds owed := by
  intro id a p ha hp
  by_cases hsame : files.readText p = w.files.readText p
  · exact (h ha hp).imp_left fun hfresh => hfresh.setFiles ha hp hsame
  · exact Or.inr (Or.inr (howed id a p ha hp hsame))

/-! ### Work is done -/

/-- A piece of work is a load, or there is nothing to do where nothing is searched for. -/
lemma run_of_posted (hw : w.Posted) (t : Task) :
    (∃ id, t = .change id ∧ w.Stocked (w.run t) ∧
      (w.run t).catalogue = w.stockEach w.catalogue [id]) ∨
      w.run t = w ∧ ∀ id, t ≠ .change id := by
  cases t with
  | change id =>
    exact Or.inl ⟨id, rfl, stocked_sourceChanged w id, catalogue_sourceChanged w id⟩
  | accept n p =>
    refine Or.inr ⟨?_, fun _ => Task.noConfusion⟩
    rw [run, acceptFile, hw.discoveries_eq]
    rfl
  | forget n p =>
    refine Or.inr ⟨?_, fun _ => Task.noConfusion⟩
    rw [run, forgetFile, hw.discoveries_eq]
    rfl

/-- Doing work makes those sources fresh that are to be loaded. -/
lemma Heeds.foldl_run {ts : List Task} (hw : w.Posted)
    (h : w.Heeds fun id p => .change id ∈ ts ∨ owed id p) :
    (ts.foldl run w).Posted ∧ (ts.foldl run w).Heeds owed ∧
      (ts.foldl run w).files = w.files ∧ (ts.foldl run w).sources = w.sources ∧
      (ts.foldl run w).hub = w.hub := by
  induction ts generalizing w with
  | nil =>
    exact ⟨hw, h.mono fun _ _ => (Or.resolve_left · List.not_mem_nil), rfl, rfl, rfl⟩
  | cons t ts ih =>
    rw [List.foldl_cons]
    rcases run_of_posted hw t with ⟨id, rfl, hs, hcatalogue⟩ | ⟨heq, hnot⟩
    · have hloaded : (w.run (.change id)).Posted ∧
          (w.run (.change id)).Heeds fun id p => .change id ∈ ts ∨ owed id p := by
        refine (h.mono fun id' p => ?_).of_stockEach hw hs hcatalogue
        rintro (hmem | howed)
        · rcases List.mem_cons.mp hmem with heq | hmem
          · exact Or.inl (List.mem_singleton.mpr (Task.change.inj heq))
          · exact Or.inr (Or.inl hmem)
        · exact Or.inr (Or.inr howed)
      obtain ⟨hposted, hdone, hfiles, hsources, hhub⟩ := ih hloaded.1 hloaded.2
      refine ⟨hposted, hdone, hfiles.trans hs.sameGround.files_eq, hsources.trans hs.sources_eq,
        hhub.trans ?_⟩
      obtain ⟨_, _, _, hstate⟩ := hs
      rw [hstate]
    · rw [heq]
      refine ih hw (h.mono fun id p => Or.imp_left fun hmem => ?_)
      exact (List.mem_cons.mp hmem).resolve_left fun heq' => hnot id heq'.symm

/-- Dropping work from the lists leaves what is known, if the work is still to be done. -/
lemma Heeds.take_up (h : w.Heeds owed) {pending scheduled ts : List Task}
    (hts : ∀ t ∈ w.pending ++ w.scheduled, t ∈ ts ∨ t ∈ pending ++ scheduled) :
    ({ w with pending, scheduled } : Workspace).Heeds fun id p => .change id ∈ ts ∨ owed id p := by
  intro id a p ha hp
  rcases h ha hp with hfresh | (hgathered | htask) | howed
  · exact Or.inl hfresh
  · exact Or.inr (Or.inl (Or.inl hgathered))
  · rcases hts _ htask with hmem | hmem
    · exact Or.inr (Or.inr (Or.inl hmem))
    · exact Or.inr (Or.inl (Or.inr hmem))
  · exact Or.inr (Or.inr (Or.inr howed))

/-- Doing the work that is about to begin leaves watched sources heeded. -/
lemma Heeds.tick (h : w.Heeds owed) (hw : w.Posted) : w.tick.Posted ∧ w.tick.Heeds owed := by
  have hposted : ({ w with pending := w.scheduled, scheduled := [] } : Workspace).Posted :=
    hw.of_eq rfl rfl rfl rfl hw.keyed
  have htaken : ({ w with pending := w.scheduled, scheduled := [] } : Workspace).Heeds
      fun id p => .change id ∈ w.pending ∨ owed id p := h.take_up (by simp)
  obtain ⟨hdone, hheeds, -⟩ := Heeds.foldl_run hposted htaken
  exact ⟨hdone, hheeds⟩

/-- Doing all work leaves watched sources heeded, and files, sources and watches as they are. -/
lemma Heeds.drain (h : w.Heeds owed) (hw : w.Posted) :
    w.drain.Posted ∧ w.drain.Heeds owed ∧ w.drain.files = w.files ∧
      w.drain.sources = w.sources ∧ w.drain.hub = w.hub := by
  have hposted : ({ w with pending := [], scheduled := [] } : Workspace).Posted :=
    hw.of_eq rfl rfl rfl rfl hw.keyed
  have htaken : ({ w with pending := [], scheduled := [] } : Workspace).Heeds
      fun id p => .change id ∈ w.pending ++ w.scheduled ∨ owed id p :=
    h.take_up fun t ht => Or.inl ht
  exact Heeds.foldl_run hposted htaken

/-! ### Timers and events -/

/-- When a timer fires, what its watch has gathered becomes work. -/
lemma Heeds.expire (h : w.Heeds owed) (hw : w.Posted) (timer : Nat) :
    (w.expire timer).Posted ∧ (w.expire timer).Heeds owed := by
  have hspec : ∃ scheduled, w.expire timer = { w with hub := (w.hub.expire timer).2, scheduled } ∧
      (∀ t ∈ w.scheduled, t ∈ scheduled) ∧
      ∀ id, (w.hub.expire timer).1 = some id → .change id ∈ scheduled := by
    rw [Workspace.expire]
    cases hfired : w.hub.expire timer with
    | mk subject hub =>
      cases subject with
      | none => exact ⟨w.scheduled, rfl, fun _ ht => ht, fun _ hid => nomatch hid⟩
      | some id =>
        refine ⟨w.scheduled ++ [.change id], rfl, fun t ht => List.mem_append_left _ ht, ?_⟩
        rintro id' ⟨⟩
        simp
  obtain ⟨scheduled, heq, hkept, hwork⟩ := hspec
  have hkeeps := w.hub.keeps_expire timer
  rw [heq]
  refine ⟨⟨hw.watching_eq, hw.discoveries_eq, hw.timed.expire timer, hw.keyed, hw.enabled,
    fun ha => (hw.watched ha).of_keeps hkeeps⟩, fun id a p ha hp => ?_⟩
  rcases h ha hp with hfresh | (⟨n, hn, hne⟩ | htask) | howed
  · exact Or.inl hfresh
  · obtain ⟨m, hm, htarget, -⟩ := hw.watched ha p hp
    cases hn.symm.trans hm
    rcases Hub.gathered_expire htarget hne with hstill | hfired
    · exact Or.inr (Or.inl (Or.inl ⟨n, hn, hstill⟩))
    · exact Or.inr (Or.inl (Or.inr (List.mem_append_right _ (hwork id hfired))))
  · refine Or.inr (Or.inl (Or.inr ?_))
    rcases List.mem_append.mp htask with hmem | hmem
    · exact List.mem_append_left _ hmem
    · exact List.mem_append_right _ (hkept _ hmem)
  · exact Or.inr (Or.inr howed)

/-- An observer that is told about an event leaves alone all but the debouncer of its watch. -/
lemma handle_of_posted (hw : w.Posted) {e : FileEvent} {o : Observer}
    (h : w.handle e o = .ok w') :
    ∃ hub, w' = { w with hub } ∧ hub.IsTimed ∧ w.hub.Keeps hub ∧
      (∀ n, w.hub.gathered n ≠ [] → hub.gathered n ≠ []) ∧
      ∀ n p id, o = .file n → w.hub.target? n = some (p, id) →
        e.concerns w.files.workingDirectory p = .ok true → hub.gathered n ≠ [] := by
  cases o with
  | tree n root =>
    rw [handle, hw.discoveries_eq] at h
    cases h
    exact ⟨w.hub, rfl, hw.timed, Hub.Keeps.refl _, fun _ hne => hne, fun _ _ _ ho => nomatch ho⟩
  | file n =>
    rw [handle] at h
    cases htouch : w.hub.touch w.files.workingDirectory n e with
    | error why =>
      rw [htouch] at h
      cases h
    | ok hub =>
      rw [htouch] at h
      cases h
      refine ⟨hub, rfl, hw.timed.touch htouch, Hub.keeps_touch htouch,
        fun m hne => Hub.gathered_touch htouch hne, ?_⟩
      rintro m p id ⟨⟩ htarget hconcerns
      exact Hub.gathered_touch_self htouch htarget hconcerns

/-- A source is among those that are told about an event that names a file. -/
def Told (w : Workspace) (e : FileEvent) (os : List Observer) (id : String) (p : Path) : Prop :=
  e.concerns w.files.workingDirectory p = .ok true ∧
    ∃ a n, w.sources.get? id = some a ∧ a.watch = some n ∧ .file n ∈ os

/-- Once an observer has been told about an event, a change of the file that it names has been
noticed. -/
lemma Heeds.handle {e : FileEvent} {o : Observer} (hw : w.Posted)
    (h : w.Heeds fun id p => w.Told e [o] id p ∨ owed id p) (hhandle : w.handle e o = .ok w') :
    w'.Posted ∧ w'.Heeds owed ∧ w'.files = w.files ∧ w'.sources = w.sources := by
  obtain ⟨hub, rfl, htimed, hkeeps, hgathered, htold⟩ := handle_of_posted hw hhandle
  refine ⟨⟨hw.watching_eq, hw.discoveries_eq, htimed, hw.keyed, hw.enabled,
    fun ha => (hw.watched ha).of_keeps hkeeps⟩, fun id a p ha hp => ?_, rfl, rfl⟩
  have hkept : ({ w with hub } : Workspace).Fresh id ∨ ({ w with hub } : Workspace).Noticed id a ∨
      w.Told e [o] id p ∨ owed id p :=
    heeded_of_kept (h ha hp) rfl rfl ha ha (fun n _ => hgathered n) (fun _ ht => ht)
  rcases hkept with hfresh | hnoticed | ⟨hconcerns, a', n, ha', hn, hmem⟩ | howed
  · exact Or.inl hfresh
  · exact Or.inr (Or.inl hnoticed)
  · obtain ⟨m, hm, htarget, -⟩ := hw.watched ha p hp
    cases ha'.symm.trans ha
    cases hn.symm.trans hm
    have hne := htold n p id (List.mem_singleton.mp hmem).symm htarget hconcerns
    exact Or.inr (Or.inl (Or.inl ⟨n, hn, hne⟩))
  · exact Or.inr (Or.inr howed)

/-- Observers may fail to handle an event, but not one that names the file that they watch. -/
lemma not_told_of_error (hw : w.Posted) {e : FileEvent} {o : Observer} {why : PathFault}
    (hhandle : w.handle e o = .error why) (ha : w.sources.get? id = some a)
    (hp : a.source.watched? = some p) : ¬ w.Told e [o] id p := by
  rintro ⟨hconcerns, a', n, ha', hn, hmem⟩
  obtain ⟨m, hm, htarget, -⟩ := hw.watched ha p hp
  cases ha'.symm.trans ha
  cases hn.symm.trans hm
  obtain ⟨hub, htouch⟩ := Hub.exists_touch htarget hconcerns
  rw [← List.mem_singleton.mp hmem, Workspace.handle, htouch] at hhandle
  cases hhandle

/-- Once the observers have been told about an event, one after another, changes of the files that
it names have been noticed, whatever work is done in between. -/
lemma Heeds.deliverTo {e : FileEvent} {os : List Observer} (hw : w.Posted)
    (h : w.Heeds fun id p => ((deliverTo e os w).1 = .ok () ∧ w.Told e os id p) ∨ owed id p) :
    (deliverTo e os w).2.Posted ∧ (deliverTo e os w).2.Heeds owed := by
  induction os generalizing w with
  | nil =>
    refine ⟨hw, h.mono fun id p => ?_⟩
    rintro (⟨-, -, -, n, -, -, hn⟩ | howed)
    · cases hn
    · exact howed
  | cons o os ih =>
    cases hhandle : w.handle e o with
    | error why =>
      have hdeliver : Workspace.deliverTo e (o :: os) w = (.error why, w) := by
        rw [Workspace.deliverTo, hhandle]
      rw [hdeliver] at h ⊢
      refine ⟨hw, h.mono fun id p => ?_⟩
      rintro (⟨hok, -⟩ | howed)
      · cases hok
      · exact howed
    | ok v =>
      have hdeliver : Workspace.deliverTo e (o :: os) w = Workspace.deliverTo e os v.drain := by
        rw [Workspace.deliverTo, hhandle]
      rw [hdeliver] at h ⊢
      -- The sources that are not told about the event now are told later.
      have hlater : w.Heeds fun id p => w.Told e [o] id p ∨
          ((Workspace.deliverTo e os v.drain).1 = .ok () ∧ w.Told e os id p) ∨ owed id p := by
        refine h.mono fun id p => ?_
        rintro (⟨hok, hconcerns, a, n, ha, hn, hmem⟩ | howed)
        · rcases List.mem_cons.mp hmem with heq | hmem
          · exact Or.inl ⟨hconcerns, a, n, ha, hn, List.mem_singleton.mpr heq⟩
          · exact Or.inr (Or.inl ⟨hok, hconcerns, a, n, ha, hn, hmem⟩)
        · exact Or.inr (Or.inr howed)
      obtain ⟨hposted, hheeds, hfiles, hsources⟩ := Heeds.handle hw hlater hhandle
      obtain ⟨hdrained, hheeds, hfiles', hsources', -⟩ := hheeds.drain hposted
      refine ih hdrained (hheeds.mono fun id p => Or.imp_left (And.imp_right ?_))
      unfold Told
      rw [hfiles', hfiles, hsources', hsources]
      exact fun htold => htold

end Workspace

end DesignTokens
