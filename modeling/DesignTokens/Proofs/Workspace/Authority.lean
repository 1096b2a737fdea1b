import DesignTokens.Proofs.Catalogue.Resolution
import DesignTokens.Proofs.Workspace.Notes
import Mathlib.Logic.Function.Basic

/-!
# The latest loads decide which records are active

A run of a workspace starts without sources, and mixes starts, additions, removals, loads and
changes of files in any order.  Its history is what the operations report: resets of the
catalogue, loads that gave records, with the rank that the source had, and loads that failed.

The main result says which record of a key is active after a run: the authoritative one among the
latest loads of the history (`activeRecord_of_latest_loads`).  Sources that were removed still
count until the next reset, a source that comes back with another rank counts with the rank of
its latest load, and neither failed loads nor the order of the loads matter.
-/

namespace DesignTokens

/-! ### Records carry the rank of their source -/

/-- A computation in two steps succeeds when both steps do. -/
lemma bind_eq_ok_iff {ε α β : Type} {x : Except ε α} {k : α → Except ε β} {b : β} :
    x >>= k = .ok b ↔ ∃ a, x = .ok a ∧ k a = .ok b := by
  cases x with
  | error e => simp [bind, Except.bind]
  | ok a => simp [bind, Except.bind]

namespace Source

variable {s : Source} {f : FileTree} {rs : List TokenRecord}

/-- A record has the rank and the identity of its source. -/
@[simp] lemma precedence_record (name value : Text) (theme : Theme) (category : Category)
    (description : Option Text) :
    (s.record name value theme category description).precedence = (s.priority, s.id) := rfl

/-- Whatever a source loads, its records are made in one way. -/
lemma exists_record_of_load (h : s.load f = .ok rs) :
    ∀ r ∈ rs, ∃ name value theme category description,
      r = s.record name value theme category description := by
  unfold load at h
  split at h
  · cases h
  · split at h
    · cases h
      intro r hr
      simp only [datasetRecords, List.mem_append, List.mem_map] at hr
      rcases hr with ⟨e, -, rfl⟩ | ⟨e, -, rfl⟩ <;> exact ⟨_, _, _, _, _, rfl⟩
    · cases h
  · obtain ⟨⟨p, t⟩, -, hrs⟩ := bind_eq_ok_iff.mp h
    cases hrs
    intro r hr
    obtain ⟨e, -, rfl⟩ := List.mem_map.mp hr
    exact ⟨_, _, _, _, _, rfl⟩
  · obtain ⟨⟨p, t⟩, -, hrs⟩ := bind_eq_ok_iff.mp h
    cases hrs
    intro r hr
    obtain ⟨e, -, rfl⟩ := List.mem_map.mp hr
    exact ⟨_, _, _, _, _, rfl⟩

/-- The records that a source loads have its rank and its identity. -/
lemma precedence_of_load (h : s.load f = .ok rs) : ∀ r ∈ rs, r.precedence = (s.priority, s.id) := by
  intro r hr
  obtain ⟨name, value, theme, category, description, rfl⟩ := exists_record_of_load h r hr
  exact precedence_record ..

end Source

namespace Workspace

variable {w w' : Workspace} {id : String} {d : SourceDescriptor}

/-! ### Histories -/

/-- What a history of a workspace is made of. -/
inductive Event
  /-- All records were forgotten. -/
  | reset
  /-- A source gave records. -/
  | loaded (l : Load)
  /-- A source gave none, or there is no such source. -/
  | failed (id : String)

namespace Event

/-- Were all records forgotten? -/
def isReset : Event → Bool
  | reset => true
  | _ => false

/-- The load of a source, if the event is one that succeeded. -/
def loadOf? (id : String) : Event → Option Load
  | loaded l => if l.id = id then some l else none
  | _ => none

end Event

/-- The most recent successful load of a source since the last reset. -/
def latest? (h : List Event) (id : String) : Option Load :=
  History.lastSome? (Event.loadOf? id) (History.sinceLast Event.isReset h)

/-- Behind a reset no source has a latest load. -/
lemma latest?_reset (h : List Event) : latest? (h ++ [.reset]) = fun _ => none := by
  funext id
  rw [latest?, History.sinceLast_concat]
  rfl

/-- A load is the latest one of its source, and of no other. -/
lemma latest?_loaded (h : List Event) (l : Load) :
    latest? (h ++ [.loaded l]) = Function.update (latest? h) l.id (some l) := by
  funext id
  rw [latest?, History.sinceLast_concat, Function.update_apply]
  by_cases hid : id = l.id
  · simp [Event.isReset, History.lastSome?_concat, Event.loadOf?, hid]
  · simp [Event.isReset, History.lastSome?_concat, Event.loadOf?, hid, Ne.symm hid, latest?]

/-- A load that failed changes no latest load. -/
lemma latest?_failed (h : List Event) (id : String) : latest? (h ++ [.failed id]) = latest? h := by
  funext id'
  rw [latest?, History.sinceLast_concat]
  simp [Event.isReset, History.lastSome?_concat, Event.loadOf?, latest?]

/-- The event that the result of a load reports; the rank is the one that the source has. -/
def eventOf (w : Workspace) (r : LoadResult) : Event :=
  match w.sources.get? r.id, r.outcome with
  | some a, .ok rs => .loaded ⟨r.id, a.source.priority, rs⟩
  | _, _ => .failed r.id

/-- Only the sources count for the event of a result. -/
lemma eventOf_congr (h : w'.sources = w.sources) : w'.eventOf = w.eventOf := by
  funext r
  rw [eventOf, eventOf, h]

/-! ### A workspace tracks its history -/

/-- The sources stand under their identities, and the catalogue is what the latest loads of the
history say. -/
structure Tracks (w : Workspace) (h : List Event) : Prop where
  /-- A source stands under its identity. -/
  source_id : ∀ id a, w.sources.get? id = some a → a.source.id = id
  /-- The catalogue reflects the latest loads. -/
  reflects : w.catalogue.Reflects (latest? h)

variable {h : List Event}

/-- A state with the same records and sources tracks the same history. -/
lemma Tracks.of_sameStore (hw : w.Tracks h) (hs : SameStore w w') : w'.Tracks h where
  source_id := by
    rw [hs.sources_eq]
    exact hw.source_id
  reflects := by
    rw [hs.catalogue_eq]
    exact hw.reflects

/-- Notes and signals are no events of the history. -/
lemma Tracks.of_noted (hw : w.Tracks h) (hs : w.Noted w') : w'.Tracks h :=
  hw.of_sameStore hs.sameStore

/-- A new workspace tracks the empty history. -/
lemma tracks_new (files : FileTree) (place : DatasetPlace) (watching : Bool) :
    (new files place watching).Tracks [] where
  source_id := by
    intro id a h
    cases h
  reflects := Catalogue.reflects_empty

/-- A reset of the catalogue is tracked. -/
lemma Tracks.reset (hw : w.Tracks h) : w.resetCatalogue.Tracks (h ++ [.reset]) where
  source_id := hw.source_id
  reflects := by
    rw [latest?_reset]
    exact Catalogue.reflects_empty

/-- A load changes no sources. -/
lemma sources_loadSource (w : Workspace) (id : String) :
    (w.loadSource id).2.sources = w.sources := by
  unfold Workspace.loadSource
  split
  · rfl
  · split <;> rfl

/-- A load is tracked by the event of its result. -/
lemma Tracks.loadSource (hw : w.Tracks h) (id : String) :
    (w.loadSource id).2.Tracks (h ++ [w.eventOf (w.loadSource id).1]) := by
  refine ⟨?_, ?_⟩
  · rw [sources_loadSource]
    exact hw.source_id
  · unfold Workspace.loadSource
    split
    · next hnone =>
      rw [eventOf, hnone, latest?_failed]
      exact hw.reflects
    · next a ha =>
      split
      · next e he =>
        have hevent : w.eventOf ⟨id, some a.source.descriptor.kind, .error e.message⟩
            = .failed id := by
          rw [eventOf, ha]
        rw [hevent, latest?_failed]
        exact hw.reflects
      · next rs hrs =>
        have hevent : w.eventOf ⟨id, some a.source.descriptor.kind, .ok rs⟩
            = .loaded ⟨id, a.source.priority, rs⟩ := by
          rw [eventOf, ha]
        have hrank : ∀ r ∈ rs, r.precedence = (a.source.priority, id) := by
          intro r hr
          rw [Source.precedence_of_load hrs r hr, hw.source_id id a ha]
        rw [hevent, latest?_loaded]
        exact hw.reflects.merge ⟨id, a.source.priority, rs⟩ hrank

/-- Loads change no sources. -/
lemma sources_loadEach (ids : List String) (w : Workspace) :
    (loadEach ids w).2.sources = w.sources := by
  induction ids generalizing w with
  | nil => rfl
  | cons id ids ih => exact (ih _).trans (sources_loadSource w id)

/-- Loads one after another are tracked. -/
lemma Tracks.loadEach (hw : w.Tracks h) (ids : List String) :
    (loadEach ids w).2.Tracks (h ++ (Workspace.loadEach ids w).1.map w.eventOf) := by
  induction ids generalizing w h with
  | nil => simpa [Workspace.loadEach] using hw
  | cons id ids ih =>
    have hstep := ih (hw.loadSource id)
    rw [eventOf_congr (sources_loadSource w id), List.append_assoc] at hstep
    exact hstep

/-- Loading all sources changes none of them. -/
lemma sources_loadAll (w : Workspace) : w.loadAll.2.sources = w.sources :=
  (loadAll_spec w).2.sameStore.sources_eq.trans (sources_loadEach _ w)

/-- The end of a start changes no sources. -/
lemma sources_finishPopulating (w : Workspace) : w.finishPopulating.2.sources = w.sources :=
  sources_loadAll w

/-- Loading all sources is tracked. -/
lemma Tracks.loadAll (hw : w.Tracks h) :
    w.loadAll.2.Tracks (h ++ w.loadAll.1.map w.eventOf) := by
  obtain ⟨hresults, hnoted⟩ := loadAll_spec w
  rw [hresults]
  exact (hw.loadEach w.enabledIds).of_noted hnoted

/-- A source that is attached stands under its identity, and no records change. -/
lemma Tracks.attach (hw : w.Tracks h) (d : SourceDescriptor) : (w.attach d).2.Tracks h := by
  have hchecked : ∀ {w : Workspace}, w.Tracks h → (w.attachChecked d).2.Tracks h := by
    intro w hw
    unfold attachChecked
    dsimp only
    split
    · exact hw
    · have hwatch := hw.of_sameStore (sameStore_watch w (Source.ofDescriptor w.place d))
      refine ⟨?_, hwatch.reflects⟩
      intro id a ha
      have ha' : ((w.watch (Source.ofDescriptor w.place d)).2.sources.insert
          (Source.ofDescriptor w.place d).id ⟨Source.ofDescriptor w.place d,
            (w.watch (Source.ofDescriptor w.place d)).1⟩).get? id = some a := ha
      rw [OrderedMap.get?_insert] at ha'
      split at ha'
      · next hid =>
        cases ha'
        exact hid
      · exact hwatch.source_id id a ha'
    · exact hw.of_noted (noted_remark _ _ _)
  unfold Workspace.attach checkNew
  by_cases hnew : w.sources.contains d.sourceId
  · rw [if_pos hnew]
    exact hw.of_noted (noted_remark _ _ _)
  · rw [if_neg hnew]
    exact hchecked hw

/-- Attaching sources is no event of the history. -/
lemma Tracks.attachEach (hw : w.Tracks h) (ds : List SourceDescriptor) :
    (Workspace.attachEach ds w).2.Tracks h := by
  induction ds generalizing w with
  | nil => exact hw
  | cons d ds ih =>
    have hstep := hw.attach d
    rw [Workspace.attachEach]
    split
    · next why w' heq => rwa [heq] at hstep
    · next b w' heq =>
      rw [heq] at hstep
      exact ih hstep

/-- Releasing all sources is no event of the history. -/
lemma Tracks.releaseAll (hw : w.Tracks h) : w.releaseAll.Tracks h where
  source_id := by
    intro id a ha
    cases ha
  reflects := by
    rw [catalogue_releaseAll]
    exact hw.reflects

/-! ### Runs -/

/-- What may happen to a workspace. -/
inductive Operation
  /-- Start anew with declared sources. -/
  | populate (ds : List SourceDescriptor)
  /-- Add a source and load it. -/
  | addSource (d : SourceDescriptor)
  /-- Remove a source. -/
  | removeSource (id : String)
  /-- Load a source. -/
  | loadSource (id : String)
  /-- Load every enabled source. -/
  | loadAll
  /-- Forget all records and load every enabled source. -/
  | reload
  /-- The file of a source changed. -/
  | sourceChanged (id : String)
  /-- A listener is connected to the signals. -/
  | listen
  /-- The files become other ones. -/
  | setFiles (files : FileTree)

namespace Operation

/-- The state behind an operation. -/
def apply (w : Workspace) : Operation → Workspace
  | populate ds => (w.populate ds).2
  | addSource d => (w.addSource d).2
  | removeSource id => (w.removeSource id).2
  | loadSource id => (w.loadSource id).2
  | loadAll => w.loadAll.2
  | reload => w.reload.2
  | sourceChanged id => (w.sourceChanged id).2
  | listen => w.listen
  | setFiles files => { w with files }

/-- What an operation reports, in order.  A start forgets all records if there are sources to give
up; an addition loads the source once the listeners know about it. -/
def events (w : Workspace) : Operation → List Event
  | populate ds =>
      (if w.sources.isEmpty then [] else [.reset]) ++
        match w.populate ds with
        | (.ok results, w') => results.map w'.eventOf
        | (.error _, _) => []
  | addSource d =>
      match w.attach d with
      | (.ok true, w') => [w'.eventOf (w'.fireSources.loadSource d.sourceId).1]
      | _ => []
  | loadSource id => [w.eventOf (w.loadSource id).1]
  | loadAll => w.loadAll.1.map w.eventOf
  | reload => .reset :: w.reload.1.map w.eventOf
  | sourceChanged id => (w.sourceChanged id).1.toList.map w.eventOf
  | removeSource _ | listen | setFiles _ => []

end Operation

/-- The state after a sequence of operations. -/
def after (w : Workspace) (ops : List Operation) : Workspace :=
  ops.foldl Operation.apply w

/-- What a sequence of operations reports. -/
def history (w : Workspace) : List Operation → List Event
  | [] => []
  | op :: ops => op.events w ++ history (op.apply w) ops

/-- A start is tracked. -/
lemma Tracks.populate (hw : w.Tracks h) (ds : List SourceDescriptor) :
    (w.populate ds).2.Tracks (h ++ (Operation.populate ds).events w) := by
  -- First the old sources are given up, then the new ones are attached, then they are loaded.
  let cleared : Workspace :=
    if w.sources.isEmpty then w.remark .info "Initializing token sources"
    else (w.remark .info "Initializing token sources").releaseAll.resetCatalogue
  have hcleared : cleared.Tracks (h ++ if w.sources.isEmpty then [] else [.reset]) := by
    have hstart := hw.of_noted (noted_remark w .info "Initializing token sources")
    by_cases hnone : w.sources.isEmpty
    · simpa [cleared, hnone] using hstart
    · simpa [cleared, hnone] using hstart.releaseAll.reset
  have hattached := hcleared.attachEach (withDataset ds)
  rw [Operation.events, ← List.append_assoc]
  cases hattach : Workspace.attachEach (withDataset ds) cleared with
  | mk outcome w' =>
    rw [hattach] at hattached
    cases outcome with
    | error why =>
      have hpopulate : w.populate ds = (.error why, w') := by
        unfold Workspace.populate
        dsimp only
        split
        · next heq =>
          cases heq.symm.trans hattach
          rfl
        · next heq => cases heq.symm.trans hattach
      rw [hpopulate]
      simpa using hattached
    | ok u =>
      have hpopulate : w.populate ds = (.ok w'.finishPopulating.1, w'.finishPopulating.2) := by
        unfold Workspace.populate
        dsimp only
        split
        · next heq => cases heq.symm.trans hattach
        · next heq =>
          cases heq.symm.trans hattach
          rfl
      have hfinish : w'.finishPopulating.2.Tracks
          ((h ++ if w.sources.isEmpty then [] else [.reset]) ++ w'.loadAll.1.map w'.eventOf) :=
        hattached.loadAll.of_noted (noted_remark _ _ _)
      rw [← eventOf_congr (sources_finishPopulating w')] at hfinish
      rw [hpopulate]
      exact hfinish

/-- An addition is tracked. -/
lemma Tracks.addSource (hw : w.Tracks h) (d : SourceDescriptor) :
    (w.addSource d).2.Tracks (h ++ (Operation.addSource d).events w) := by
  have hattached := hw.attach d
  rw [Operation.events, Workspace.addSource]
  cases hattach : w.attach d with
  | mk outcome w' =>
    rw [hattach] at hattached
    -- A source that did not join the set is not loaded.
    rcases outcome with why | joined
    · simpa using hattached
    · cases joined with
      | false => simpa using hattached
      | true =>
        have hfired := noted_fireSources w'
        have hload := (hattached.of_noted hfired).loadSource d.sourceId
        rw [eventOf_congr hfired.sameStore.sources_eq] at hload
        exact hload.of_noted (noted_loadAdded w'.fireSources d.sourceId)

/-- A removal is no event of the history. -/
lemma Tracks.removeSource (hw : w.Tracks h) (id : String) : (w.removeSource id).2.Tracks h := by
  unfold Workspace.removeSource
  split
  · exact hw
  · next a ha =>
    have herased : Tracks { w with sources := w.sources.erase id } h := by
      refine ⟨?_, hw.reflects⟩
      intro id' a' ha'
      rw [OrderedMap.get?_erase] at ha'
      split at ha'
      · cases ha'
      · exact hw.source_id id' a' ha'
    have hreleased := herased.of_sameStore (sameStore_release _ a)
    exact (hreleased.of_noted (noted_remark _ _ _)).of_noted (noted_fireSources _)

/-- A reload is tracked. -/
lemma Tracks.reload (hw : w.Tracks h) :
    w.reload.2.Tracks (h ++ Operation.reload.events w) := by
  have hreset := (hw.of_noted (noted_remark w .info "Reloading all sources")).reset
  have hload := hreset.loadAll
  rw [List.append_assoc] at hload
  exact hload

/-- The change of a file is tracked. -/
lemma Tracks.sourceChanged (hw : w.Tracks h) (id : String) :
    (w.sourceChanged id).2.Tracks (h ++ (Operation.sourceChanged id).events w) := by
  rw [Operation.events, Workspace.sourceChanged]
  by_cases hthere : w.sources.contains id
  · rw [if_pos hthere]
    have hremark := hw.of_noted (noted_remark w .info ("Source changed: " ++ id))
    exact (hremark.loadSource id).of_noted (noted_fireTokens _)
  · rw [if_neg hthere]
    simpa using hw

/-- Every operation is tracked by what it reports. -/
lemma Tracks.apply (hw : w.Tracks h) (op : Operation) :
    (op.apply w).Tracks (h ++ op.events w) := by
  cases op with
  | populate ds => exact hw.populate ds
  | addSource d => exact hw.addSource d
  | removeSource id => exact (List.append_nil h).symm ▸ hw.removeSource id
  | loadSource id => exact hw.loadSource id
  | loadAll => exact hw.loadAll
  | reload => exact hw.reload
  | sourceChanged id => exact hw.sourceChanged id
  | listen => exact (List.append_nil h).symm ▸ hw.of_sameStore ⟨rfl, rfl⟩
  | setFiles files => exact (List.append_nil h).symm ▸ hw.of_sameStore ⟨rfl, rfl⟩

/-- A run is tracked by its history. -/
lemma Tracks.after (hw : w.Tracks h) (ops : List Operation) :
    (w.after ops).Tracks (h ++ w.history ops) := by
  induction ops generalizing w h with
  | nil => exact (List.append_nil h).symm ▸ hw
  | cons op ops ih =>
    have hstep := ih (hw.apply op)
    rwa [List.append_assoc] at hstep

/-- The latest loads of a run decide which records are active after it: a key that none of them
produced has no active record, and any other key has the authoritative record among them.  Runs
whose latest loads are the same, whatever else they did, have the same active records. -/
theorem activeRecord_of_latest_loads (files : FileTree) (place : DatasetPlace) (watching : Bool)
    (ops : List Operation) :
    let w := (new files place watching).after ops
    let latest := latest? ((new files place watching).history ops)
    (∀ name t, w.registry.get? name (some t) = none
        ↔ ∀ id l, latest id = some l → ¬ l.Produces (name, t)) ∧
      (∀ name t r, w.registry.get? name (some t) = some r
        ↔ Load.IsAuthoritative latest (name, t) r) ∧
      ∀ files' place' watching' ops',
        latest? ((new files' place' watching').history ops') = latest →
          ∀ name t, ((new files' place' watching').after ops').registry.get? name (some t)
            = w.registry.get? name (some t) := by
  intro w latest
  have htracks : ∀ files place watching ops,
      ((new files place watching).after ops).catalogue.Reflects
        (latest? ((new files place watching).history ops)) :=
    fun files place watching ops => ((tracks_new files place watching).after ops).reflects
  have hw := htracks files place watching ops
  refine ⟨?_, ?_, ?_⟩
  · intro name t
    exact hw.activeRecord?_eq_none_iff (name, t)
  · intro name t r
    exact hw.activeRecord?_eq_some_iff (name, t)
  · intro files' place' watching' ops' heq
    have hw' := htracks files' place' watching' ops'
    rw [heq] at hw'
    intro name t
    apply Option.ext
    intro r
    exact (hw'.activeRecord?_eq_some_iff (name, t)).trans
      (hw.activeRecord?_eq_some_iff (name, t)).symm

end Workspace

end DesignTokens
