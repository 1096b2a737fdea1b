import DesignTokens.Proofs.Workspace.Changes
import DesignTokens.Proofs.Workspace.TokenFiles
import Mathlib.Logic.Relation

/-!
# Runs of a workspace with a discovery

A workspace and the discovery that searches for it keep a table each: the attached sources, and the
files that the discovery remembers as sources that it added.  Sources are attached, removed and
given up by operations; files are accepted and forgotten by searches, and by the work that file
events ask for.

This file takes what happens apart.  Work, events and searches come down to four moves
(`Move`): the stage stays what it is, a source joins, the discovery comes to remember other files,
or a source leaves that the discovery does not remember.  The moves come with what they need to
know of the two tables, so that what keeps the tables together is read off the moves and not off the
programs.  What happens beyond that, a run says by name (`Happening`).
-/

namespace DesignTokens

/-! ### Observers of files and of trees -/

namespace Hub

variable {κ : Type} {h h' : Hub κ}

/-- Two hubs have the same observers, and their watches have the same files and subjects. -/
structure SameTargets (h h' : Hub κ) : Prop where
  observers_eq : h'.observers = h.observers
  target?_eq : h'.target? = h.target?

/-- A hub has the same observers and targets as itself. -/
lemma SameTargets.refl (h : Hub κ) : h.SameTargets h := ⟨rfl, rfl⟩

/-- Telling a watch about an event changes no observer and no target. -/
lemma sameTargets_touch {place : List Text} {n : ℕ} {e : FileEvent}
    (ht : h.touch place n e = .ok h') : h.SameTargets h' :=
  ⟨observers_touch ht, funext fun _ => target?_touch ht⟩

/-- A timer that fires changes no observer and no target. -/
lemma sameTargets_expire (h : Hub κ) (timer : ℕ) : h.SameTargets (h.expire timer).2 :=
  ⟨observers_expire timer, funext fun _ => target?_expire timer⟩

end Hub

namespace Workspace

variable {w w' w'' : Workspace} {d : Discovery} {e : SourceDescriptor} {id : String} {n : ℕ}
  {p : Path}

/-! ### Moves -/

/-- Two states have the same sources, the same discoveries and the same observers. -/
structure SameStage (w w' : Workspace) : Prop where
  watching_eq : w'.watching = w.watching
  sources_eq : w'.sources = w.sources
  discoveries_eq : w'.discoveries = w.discoveries
  targets : w.hub.SameTargets w'.hub

/-- A state that does not change stays on its stage. -/
lemma SameStage.refl (w : Workspace) : w.SameStage w := ⟨rfl, rfl, rfl, .refl _⟩

/-- On the same stage the same sources are attached. -/
lemma SameStage.source?_eq (h : w.SameStage w') : w'.source? = w.source? := by
  funext id
  rw [source?, source?, h.sources_eq]

/-- Stocking the records changes nothing on the stage. -/
lemma Stocked.sameStage (h : w.Stocked w') : w.SameStage w' := by
  obtain ⟨_, _, _, rfl⟩ := h
  exact ⟨rfl, rfl, rfl, .refl _⟩

/-- A discovery remembers to have added a source. -/
def Remembers (w : Workspace) (id : String) : Prop :=
  ∃ d ∈ w.discoveries, d.discovered.contains id

/-- What work, events and searches come down to. -/
inductive Move : Workspace → Workspace → Prop
  /-- Files, sources, discoveries and observers stay. -/
  | still {w w' : Workspace} (hfiles : w'.files = w.files) (h : w.SameStage w') : Move w w'
  /-- A source joins the others. -/
  | join {w : Workspace} {e : SourceDescriptor} (h : (w.attach e).1 = .ok true) :
      Move w (w.attach e).2
  /-- The discovery comes to remember other files; those that are new to it are attached. -/
  | remember {w : Workspace} {d : Discovery} {found : OrderedMap String Path} (following : Bool)
      (hd : w.discoveries = [d])
      (h : ∀ id, found.contains id → d.discovered.contains id ∨ (w.source? id).isSome) :
      Move w { w with discoveries := [{ d with discovered := found, following }] }
  /-- A source leaves that the discovery does not remember. -/
  | leave {w : Workspace} {id : String} (h : ¬ w.Remembers id) : Move w (w.removeSource id).2

/-- Moves, one after another. -/
abbrev Moves : Workspace → Workspace → Prop :=
  Relation.ReflTransGen Move

/-- Staying on the stage, over the same files, is a move. -/
lemma SameStage.moves (h : w.SameStage w') (hfiles : w'.files = w.files) : w.Moves w' :=
  .single (.still hfiles h)

/-- Stocking the records is a move. -/
lemma Stocked.moves (h : w.Stocked w') : w.Moves w' :=
  h.sameStage.moves h.sameGround.files_eq

/-- Notes and signals are a move. -/
lemma Noted.moves (h : w.Noted w') : w.Moves w' :=
  h.stocked.moves

/-- Files stay what they are while something is done. -/
lemma Moves.files_eq (h : w.Moves w') : w'.files = w.files := by
  induction h with
  | refl => rfl
  | tail _ hmove ih =>
    refine Eq.trans ?_ ih
    cases hmove with
    | still hfiles _ => exact hfiles
    | join _ => exact (sameGround_attach _ _).files_eq
    | remember _ _ _ => rfl
    | leave _ => exact (sameGround_removeSource _ _).files_eq

/-! ### The discovery -/

/-- The workspace has the one discovery, which may have found files and may be following. -/
def HasDiscovery (w : Workspace) (d : Discovery) : Prop :=
  ∃ found following, w.discoveries = [{ d with discovered := found, following }]

/-- The one discovery is there as long as the discoveries stay. -/
lemma HasDiscovery.of_eq (h : w.HasDiscovery d) (heq : w'.discoveries = w.discoveries) :
    w'.HasDiscovery d := by
  obtain ⟨found, following, hd⟩ := h
  exact ⟨found, following, heq.trans hd⟩

/-- A move keeps the one discovery. -/
lemma HasDiscovery.move (h : w.HasDiscovery d) (hmove : Move w w') : w'.HasDiscovery d := by
  cases hmove with
  | still _ hsame => exact h.of_eq hsame.discoveries_eq
  | join _ => exact h.of_eq (sameGround_attach w _).discoveries_eq
  | remember following hd _ =>
    obtain ⟨_, _, hd'⟩ := h
    rw [hd] at hd'
    cases hd'
    exact ⟨_, _, rfl⟩
  | leave _ => exact h.of_eq (sameGround_removeSource w _).discoveries_eq

/-- Moves keep the one discovery. -/
lemma HasDiscovery.moves (h : w.HasDiscovery d) (hmoves : w.Moves w') : w'.HasDiscovery d := by
  induction hmoves with
  | refl => exact h
  | tail _ hmove ih => exact ih.move hmove

/-- There is only the one discovery. -/
lemma eq_of_getElem? {d' : Discovery} (hd : w.discoveries = [d])
    (h : w.discoveries[n]? = some d') : n = 0 ∧ d' = d := by
  rw [hd, List.getElem?_singleton] at h
  split at h
  · next hn =>
    cases h
    exact ⟨hn, rfl⟩
  · cases h

/-- Replacing the one discovery leaves one. -/
lemma setDiscovery_eq (hd : w.discoveries = [d]) (d' : Discovery) :
    w.setDiscovery 0 d' = { w with discoveries := [d'] } := by
  rw [setDiscovery, hd]
  rfl

/-- The one discovery remembers what is remembered at all. -/
lemma remembers_iff (hd : w.discoveries = [d]) : w.Remembers id ↔ d.discovered.contains id := by
  simp [Remembers, hd]

/-! ### Files are accepted and forgotten -/

/-- A source that joins is there. -/
lemma source?_addSource_self (h : (w.addSource e).1 = .ok true) :
    ((w.addSource e).2.source? e.sourceId).isSome := by
  rw [outcome_addSource] at h
  rw [source?_addSource, source?_attach, if_pos ⟨h, rfl⟩]
  rfl

/-- An addition comes down to moves. -/
lemma moves_addSource (w : Workspace) (e : SourceDescriptor) : w.Moves (w.addSource e).2 := by
  by_cases h : (w.attach e).1 = .ok true
  · rw [addSource_of_joined h]
    refine (Relation.ReflTransGen.single (.join h)).trans (Stocked.moves ?_)
    exact (noted_fireSources _).stocked.trans
      ((stocked_loadSource _ _).trans (noted_loadAdded _ _).stocked)
  · rw [addSource_of_not_joined h]
    exact (attach_of_not_joined h).moves

/-- A file that is remembered is not looked at. -/
lemma acceptFile_of_remembered {kind : SourceKind} (hd : w.discoveries[n]? = some d)
    (hkind : SourceKind.ofPath? p = some kind)
    (h : d.discovered.contains (d.descriptorOf kind p).sourceId) :
    w.acceptFile n p = (.ok false, w) := by
  rw [acceptFile, hd, hkind]
  exact if_pos h

/-- A file that is not remembered and defines tokens is added, and remembered if that succeeds. -/
lemma acceptFile_of_defines {kind : SourceKind} (hd : w.discoveries[n]? = some d)
    (hkind : SourceKind.ofPath? p = some kind)
    (hnew : ¬ d.discovered.contains (d.descriptorOf kind p).sourceId)
    (hdefines : w.files.definesTokens p kind = .ok true) :
    (w.acceptFile n p).2 = if (w.addSource (d.descriptorOf kind p)).1 = .ok true
      then ((w.addSource (d.descriptorOf kind p)).2.setDiscovery n { d with
        discovered := d.discovered.insert (d.descriptorOf kind p).sourceId p }).remarkDiscovery
          ("Added token file: " ++ p.toString)
      else (w.addSource (d.descriptorOf kind p)).2 := by
  rw [acceptFile, hd, hkind]
  dsimp only
  rw [if_neg hnew, hdefines]
  dsimp only
  split
  · next v hv => rw [hv, if_pos rfl]
  · next outcome v hnot hv =>
    rw [hv, if_neg hnot]

/-- A file that cannot be read as a source, or does not define tokens, changes nothing. -/
lemma acceptFile_of_not_defines
    (h : ∀ kind, SourceKind.ofPath? p = some kind → w.files.definesTokens p kind ≠ .ok true) :
    (w.acceptFile n p).2 = w := by
  rw [acceptFile]
  split
  · next kind _ hkind =>
    dsimp only
    split
    · rfl
    · split
      · rfl
      · rfl
      · next hdefines => exact absurd hdefines (h kind hkind)
  · rfl

/-- Accepting a file comes down to moves. -/
lemma moves_acceptFile (hw : w.discoveries = [d]) (n : ℕ) (p : Path) :
    w.Moves (w.acceptFile n p).2 := by
  by_cases hdefines : ∃ kind, SourceKind.ofPath? p = some kind ∧
      w.files.definesTokens p kind = .ok true
  · obtain ⟨kind, hkind, hdefines⟩ := hdefines
    cases hd : w.discoveries[n]? with
    | none =>
      rw [acceptFile, hd]
    | some d' =>
      obtain ⟨rfl, rfl⟩ := eq_of_getElem? hw hd
      by_cases hold : d'.discovered.contains (d'.descriptorOf kind p).sourceId
      · rw [acceptFile_of_remembered hd hkind hold]
      · have hadded := moves_addSource w (d'.descriptorOf kind p)
        rw [acceptFile_of_defines hd hkind hold hdefines]
        split
        · next hjoined =>
          have hafter : (w.addSource (d'.descriptorOf kind p)).2.discoveries = [d'] :=
            (sameGround_addSource w _).discoveries_eq.trans hw
          rw [setDiscovery_eq hafter]
          -- The file is remembered as a source that has just joined.
          refine hadded.trans (.trans (.single (.remember d'.following hafter fun id hid => ?_))
            (noted_note _ _).moves)
          rw [OrderedMap.contains, OrderedMap.get?_insert] at hid
          split at hid
          · next heq => exact Or.inr (heq ▸ source?_addSource_self hjoined)
          · exact Or.inl hid
        · exact hadded
  · rw [acceptFile_of_not_defines fun kind hkind h => hdefines ⟨kind, hkind, h⟩]

/-- Forgetting a file comes down to moves. -/
lemma moves_forgetFile (hw : w.discoveries = [d]) (n : ℕ) (p : Path) :
    w.Moves (w.forgetFile n p).2 := by
  rw [forgetFile]
  split
  · exact .refl
  · next d' hd =>
    obtain ⟨rfl, rfl⟩ := eq_of_getElem? hw hd
    split
    · exact .refl
    · next id _ _ =>
      rw [setDiscovery_eq hw]
      -- The source leaves once its file is no longer remembered.
      refine .trans (.single (.remember d'.following hw fun id' hid' => ?_)) (.single (.leave ?_))
      · rw [OrderedMap.contains, OrderedMap.get?_erase] at hid'
        split at hid'
        · cases hid'
        · exact Or.inl hid'
      · rw [remembers_iff rfl, OrderedMap.contains, OrderedMap.get?_erase, if_pos rfl]
        exact Bool.false_ne_true

/-! ### Work, events and searches -/

/-- Looking at a file, there are moves, and there is still the one discovery. -/
lemma HasDiscovery.acceptFile (hw : w.HasDiscovery d) (n : ℕ) (p : Path) :
    w.Moves (w.acceptFile n p).2 ∧ (w.acceptFile n p).2.HasDiscovery d := by
  obtain ⟨found, following, hd⟩ := hw
  have hmoves := moves_acceptFile hd n p
  exact ⟨hmoves, HasDiscovery.moves ⟨found, following, hd⟩ hmoves⟩

/-- Work comes down to moves. -/
lemma HasDiscovery.moves_run (hw : w.HasDiscovery d) (t : Task) : w.Moves (w.run t) := by
  obtain ⟨found, following, hd⟩ := hw
  cases t with
  | change id => exact (stocked_sourceChanged w id).moves
  | accept n p => exact moves_acceptFile hd n p
  | forget n p => exact moves_forgetFile hd n p

/-- Several pieces of work come down to moves. -/
lemma HasDiscovery.moves_foldl_run (hw : w.HasDiscovery d) (ts : List Task) :
    w.Moves (ts.foldl run w) := by
  induction ts generalizing w with
  | nil => exact .refl
  | cons t ts ih =>
    have hstep := hw.moves_run t
    exact hstep.trans (ih (hw.moves hstep))

/-- Only sources, discoveries and observers count. -/
lemma HasDiscovery.moves_work (hw : w.HasDiscovery d) (hsame : w.SameStage w')
    (hfiles : w'.files = w.files) (ts : List Task) : w.Moves (ts.foldl run w') :=
  (hsame.moves hfiles).trans ((hw.moves (hsame.moves hfiles)).moves_foldl_run ts)

/-- Doing the work that is about to begin comes down to moves. -/
lemma HasDiscovery.moves_tick (hw : w.HasDiscovery d) : w.Moves w.tick := by
  have htaken : w.SameStage { w with pending := w.scheduled, scheduled := [] } :=
    ⟨rfl, rfl, rfl, .refl _⟩
  exact hw.moves_work htaken rfl w.pending

/-- Doing all work comes down to moves. -/
lemma HasDiscovery.moves_drain (hw : w.HasDiscovery d) : w.Moves w.drain := by
  have htaken : w.SameStage { w with pending := [], scheduled := [] } := ⟨rfl, rfl, rfl, .refl _⟩
  exact hw.moves_work htaken rfl (w.pending ++ w.scheduled)

/-- A timer that fires comes down to moves. -/
lemma moves_expire (w : Workspace) (timer : ℕ) : w.Moves (w.expire timer) := by
  have htargets := w.hub.sameTargets_expire timer
  rw [expire]
  split
  · next hub heq =>
    rw [heq] at htargets
    exact SameStage.moves ⟨rfl, rfl, rfl, htargets⟩ rfl
  · next id hub heq =>
    rw [heq] at htargets
    exact SameStage.moves ⟨rfl, rfl, rfl, htargets⟩ rfl

/-- An observer that is told about an event asks for work at most. -/
lemma moves_handle {event : FileEvent} {o : Observer} (h : w.handle event o = .ok w') :
    w.Moves w' := by
  cases o with
  | file n =>
    rw [handle] at h
    cases htouch : w.hub.touch w.files.workingDirectory n event with
    | error why =>
      rw [htouch] at h
      cases h
    | ok hub =>
      rw [htouch] at h
      cases h
      exact SameStage.moves ⟨rfl, rfl, rfl, Hub.sameTargets_touch htouch⟩ rfl
  | tree n root =>
    have hfold : ∀ (cs : List TreeChange) (v : Workspace), w.Moves v →
        w.Moves (cs.foldl (fun v c => v.schedule (Task.ofTreeChange n c)) v) := by
      intro cs
      induction cs with
      | nil => exact fun _ hv => hv
      | cons c cs ih =>
        exact fun v hv => ih _ (hv.trans (SameStage.moves ⟨rfl, rfl, rfl, .refl _⟩ rfl))
    rw [handle] at h
    split at h
    · cases h
      exact .refl
    · split at h
      · cases h
        exact .refl
      · cases h
        exact hfold _ w .refl

/-- Telling observers about an event comes down to moves. -/
lemma HasDiscovery.moves_deliverTo (hw : w.HasDiscovery d) (event : FileEvent)
    (os : List Observer) : w.Moves (deliverTo event os w).2 := by
  induction os generalizing w with
  | nil => exact .refl
  | cons o os ih =>
    rw [deliverTo]
    split
    · exact .refl
    · next v hv =>
      have htold := moves_handle hv
      have hdone := htold.trans (hw.moves htold).moves_drain
      exact hdone.trans (ih (hw.moves hdone))

/-- Accepting files comes down to moves. -/
lemma HasDiscovery.moves_acceptEach (hw : w.HasDiscovery d) (n : ℕ) (ps : List Path) :
    w.Moves (acceptEach n ps w).2 := by
  induction ps generalizing w with
  | nil => exact .refl
  | cons p ps ih =>
    obtain ⟨hstep, hafter⟩ := hw.acceptFile n p
    rw [acceptEach]
    split
    · next why v hv => rwa [hv] at hstep
    · next accepted v hv =>
      rw [hv] at hstep hafter
      exact hstep.trans (ih hafter)

/-- A search comes down to moves. -/
lemma HasDiscovery.moves_scan (hw : w.HasDiscovery d) (n : ℕ) : w.Moves (w.scan n).2 := by
  rw [scan]
  split
  · exact .refl
  · next d' _ =>
    split
    · exact .refl
    · exact (noted_note _ w).moves
    · split
      · exact .refl
      · next ps _ =>
        have hnoted : w.Moves (w.remarkDiscovery ("Found " ++ toString ps.length
          ++ " potential token files under " ++ d'.root.toString)) := (noted_note _ w).moves
        exact hnoted.trans ((hw.moves hnoted).moves_acceptEach n ps)

/-- Noting whether a discovery follows files comes down to moves. -/
lemma moves_setFollowing (hw : w.discoveries = [d]) (n : ℕ) (following : Bool) :
    w.Moves (w.setFollowing n following) := by
  rw [setFollowing]
  split
  · exact .refl
  · next d' hd =>
    obtain ⟨rfl, rfl⟩ := eq_of_getElem? hw hd
    rw [setDiscovery_eq hw]
    exact .single (.remember following hw fun _ => Or.inl)

/-! ### What may happen -/

/-- A start gives up the old sources; the rest of it are moves. -/
lemma moves_populate (w : Workspace) (ds : List SourceDescriptor) :
    w.cleared.Moves (w.populate ds).2 := by
  have hattach : ∀ (v : Workspace) (e : SourceDescriptor), v.Moves (v.attach e).2 := by
    intro v e
    by_cases h : (v.attach e).1 = .ok true
    · exact .single (.join h)
    · exact (attach_of_not_joined h).moves
  have hattached : w.cleared.Moves (attachEach (withDataset ds) w.cleared).2 :=
    attachEach_induction (P := w.cleared.Moves) (fun v e hv => hv.trans (hattach v e)) _ .refl
  cases heach : attachEach (withDataset ds) w.cleared with
  | mk outcome v =>
    rw [heach] at hattached
    cases outcome with
    | error why =>
      rw [populate_of_error heach]
      exact hattached
    | ok u =>
      rw [populate_of_ok heach]
      exact hattached.trans
        ((stocked_loadAll v).trans (noted_finishPopulating v).stocked).moves

/-- What may happen to a workspace with a discovery. -/
inductive Happening
  /-- The workspace goes a step. -/
  | step (s : Step)
  /-- All sources and listeners are given up. -/
  | dispose
  /-- The discovery searches the tree. -/
  | scan
  /-- The discovery searches the tree, and follows files that come and go. -/
  | follow
  /-- The discovery follows files no longer. -/
  | unfollow
  /-- The discovery follows files no longer, and forgets what it found. -/
  | disposeDiscovery
  /-- The discovery looks at a file. -/
  | accept (p : Path)
  /-- The discovery gives up a file. -/
  | forget (p : Path)

namespace Happening

/-- The state behind something that happens. -/
def apply (w : Workspace) : Happening → Workspace
  | step s => s.apply w
  | dispose => w.dispose
  | scan => (w.scan 0).2
  | follow => (w.follow 0).2
  | unfollow => w.unfollow 0
  | disposeDiscovery => w.disposeDiscovery 0
  | accept p => (w.acceptFile 0 p).2
  | forget p => (w.forgetFile 0 p).2

/-- Moves are all that it takes, unless files change, sources are given up by name, or the observer
of the tree is concerned. -/
lemma moves_or (h : Happening) :
    (∀ w d, HasDiscovery w d → w.Moves (h.apply w)) ∨
      (∃ files, h = step (.operate (.setFiles files))) ∨
      (∃ ds, h = step (.operate (.populate ds))) ∨ (∃ id, h = step (.operate (.removeSource id))) ∨
      h = dispose ∨ h = follow ∨ h = unfollow ∨ h = disposeDiscovery := by
  cases h with
  | dispose => simp
  | follow => simp
  | unfollow => simp
  | disposeDiscovery => simp
  | scan => exact Or.inl fun _ _ hw => hw.moves_scan 0
  | accept p => exact Or.inl fun _ _ ⟨_, _, hd⟩ => moves_acceptFile hd 0 p
  | forget p => exact Or.inl fun _ _ ⟨_, _, hd⟩ => moves_forgetFile hd 0 p
  | step s =>
    cases s with
    | deliver event => exact Or.inl fun w _ hw => hw.moves_deliverTo event w.hub.observers
    | expire timer => exact Or.inl fun w _ _ => moves_expire w timer
    | tick => exact Or.inl fun _ _ hw => hw.moves_tick
    | drain => exact Or.inl fun _ _ hw => hw.moves_drain
    | tell event o =>
      refine Or.inl fun w _ _ => ?_
      rw [apply, Step.apply]
      cases hv : w.handle event o with
      | error why => exact .refl
      | ok v => exact moves_handle hv
    | operate op =>
      cases op with
      | setFiles files => simp
      | populate ds => simp
      | removeSource id => simp
      | addSource e => exact Or.inl fun w _ _ => moves_addSource w e
      | loadSource id => exact Or.inl fun w _ _ => (stocked_loadSource w id).moves
      | loadAll => exact Or.inl fun w _ _ => (stocked_loadAll w).moves
      | reload => exact Or.inl fun w _ _ => (stocked_reload w).moves
      | sourceChanged id => exact Or.inl fun w _ _ => (stocked_sourceChanged w id).moves
      | listen => exact Or.inl fun w _ _ => SameStage.moves ⟨rfl, rfl, rfl, .refl _⟩ rfl

end Happening

/-- The state behind all that happens, one after another. -/
def afterAll (w : Workspace) (run : List Happening) : Workspace :=
  run.foldl Happening.apply w

/-- What happens last happens last. -/
lemma afterAll_concat (w : Workspace) (run : List Happening) (h : Happening) :
    w.afterAll (run ++ [h]) = h.apply (w.afterAll run) :=
  List.foldl_concat ..

/-- Following begins with moves; the observer of the tree comes then, if the search has ended. -/
lemma HasDiscovery.moves_follow (hw : w.HasDiscovery d) :
    ∃ v, w.Moves v ∧ (w.follow 0).2 = if (w.follow 0).1.isOk then v.observeRoot 0 else v := by
  obtain ⟨found, following, hd⟩ := hw
  have hset := moves_setFollowing hd 0 true
  have hscan := (HasDiscovery.moves ⟨found, following, hd⟩ hset).moves_scan 0
  refine ⟨_, hset.trans hscan, ?_⟩
  rw [follow]
  split
  · next why v hv => rw [hv]; rfl
  · next added v hv => rw [hv]; rfl

/-- Observing a root leaves all but the observers alone. -/
lemma observeRoot_eq (w : Workspace) (n : ℕ) :
    ∃ hub journal, w.observeRoot n = { w with hub, journal } := by
  rw [observeRoot]
  split
  · exact ⟨_, _, rfl⟩
  · split <;> exact ⟨_, _, rfl⟩

/-- Disposing of the discovery stops its observer and makes it forget its files. -/
lemma disposeDiscovery_eq (hd : w.discoveries = [d]) :
    w.disposeDiscovery 0 = { w with
      hub := w.hub.stopTree 0
      discoveries := [{ d with discovered := .empty, following := false }] } := by
  have hget : (w.unfollow 0).discoveries[0]? = some d := by
    rw [unfollow, hd]
    rfl
  rw [disposeDiscovery, hget]
  dsimp only
  rw [setDiscovery, unfollow, hd]
  rfl

/-- Whatever happens, there is the one discovery. -/
lemma HasDiscovery.apply (hw : w.HasDiscovery d) (h : Happening) : (h.apply w).HasDiscovery d := by
  rcases h.moves_or with hmoves | ⟨files, rfl⟩ | ⟨ds, rfl⟩ | ⟨id, rfl⟩ | rfl | rfl | rfl | rfl
  · exact hw.moves (hmoves w d hw)
  · exact hw
  · exact hw.of_eq (sameGround_populate w ds).discoveries_eq
  · exact hw.of_eq (sameGround_removeSource w id).discoveries_eq
  · exact hw.of_eq (sameGround_releaseAll _).discoveries_eq
  · obtain ⟨v, hv, heq⟩ := hw.moves_follow
    obtain ⟨hub, journal, hobserved⟩ := v.observeRoot_eq 0
    rw [Happening.apply, heq, hobserved]
    split
    · exact (hw.moves hv).of_eq rfl
    · exact hw.moves hv
  · exact hw
  · obtain ⟨found, following, hd⟩ := hw
    rw [Happening.apply, disposeDiscovery_eq hd]
    exact ⟨_, _, rfl⟩

/-- Whatever happens, the one discovery is there. -/
lemma HasDiscovery.afterAll (hw : w.HasDiscovery d) (run : List Happening) :
    (w.afterAll run).HasDiscovery d := by
  induction run generalizing w with
  | nil => exact hw
  | cons h run ih => exact ih (hw.apply h)

/-- A workspace without sources, and a discovery that has found nothing yet. -/
def newWith (files : FileTree) (place : DatasetPlace) (watching : Bool) (d : Discovery) :
    Workspace :=
  (new files place watching).addDiscovery { d with discovered := .empty, following := false }

/-- A new workspace has the discovery that it was given. -/
lemma hasDiscovery_newWith (files : FileTree) (place : DatasetPlace) (watching : Bool)
    (d : Discovery) : (newWith files place watching d).HasDiscovery d :=
  ⟨_, _, rfl⟩

/-! ### The attached sources -/

/-- Removing a source leaves the others. -/
lemma source?_removeSource (w : Workspace) (id id' : String) :
    (w.removeSource id).2.source? id' = if id = id' then none else w.source? id' := by
  cases ha : w.sources.get? id with
  | none =>
    rw [removeSource_of_none ha]
    split
    · next heq => rw [source?, ← heq, ha, Option.map_none]
    · rfl
  | some a =>
    rw [source?, (removeSource_of_some ha).1, OrderedMap.get?_erase]
    split
    · rfl
    · rfl

/-- When the sources were given up, none is attached. -/
lemma source?_cleared (w : Workspace) (id : String) : w.cleared.source? id = none := by
  rw [source?, sources_cleared, OrderedMap.get?_empty, Option.map_none]

/-- Every attached source was made from a descriptor with its identity, and was valid then. -/
def Admitted (w : Workspace) : Prop :=
  ∀ ⦃id s⦄, w.source? id = some s → ∃ place files e,
    s = Source.ofDescriptor place e ∧ e.sourceId = id ∧ s.isValid files = .ok true

/-- Sources that were attached before are still admitted. -/
lemma Admitted.of_source? (hw : w.Admitted)
    (h : ∀ id s, w'.source? id = some s → w.source? id = some s) : w'.Admitted :=
  fun id s hs => hw (h id s hs)

/-- A move keeps the sources admitted. -/
lemma Admitted.move (hw : w.Admitted) (hmove : Move w w') : w'.Admitted := by
  cases hmove with
  | still _ hsame => exact hw.of_source? fun id s hs => hsame.source?_eq ▸ hs
  | remember _ _ _ => exact hw
  | join h =>
    intro id s hs
    rw [source?_attach] at hs
    split at hs
    · next hnew =>
      cases hs
      exact ⟨_, w.files, _, rfl, hnew.2.symm, isValid_of_joined h⟩
    · exact hw hs
  | leave _ =>
    refine hw.of_source? fun id s hs => ?_
    rw [source?_removeSource] at hs
    split at hs
    · cases hs
    · exact hs

/-- Moves keep the sources admitted. -/
lemma Admitted.moves (hw : w.Admitted) (hmoves : w.Moves w') : w'.Admitted := by
  induction hmoves with
  | refl => exact hw
  | tail _ hmove ih => exact ih.move hmove

/-- Without sources all of them are admitted. -/
lemma admitted_of_no_source (h : ∀ id, w.source? id = none) : w.Admitted :=
  fun id _ hs => nomatch (h id).symm.trans hs

/-- In a new workspace all sources are admitted. -/
lemma admitted_newWith (files : FileTree) (place : DatasetPlace) (watching : Bool)
    (d : Discovery) : (newWith files place watching d).Admitted :=
  admitted_of_no_source fun _ => rfl

/-- Whatever happens, attached sources were valid once. -/
lemma Admitted.apply (hw : w.Admitted) (hd : w.HasDiscovery d) (h : Happening) :
    (h.apply w).Admitted := by
  rcases h.moves_or with hmoves | ⟨files, rfl⟩ | ⟨ds, rfl⟩ | ⟨id, rfl⟩ | rfl | rfl | rfl | rfl
  · exact hw.moves (hmoves w d hd)
  · exact hw
  · exact (admitted_of_no_source w.source?_cleared).moves (moves_populate w ds)
  · refine hw.of_source? fun id' s hs => ?_
    have hs' : (w.removeSource id).2.source? id' = some s := hs
    rw [source?_removeSource] at hs'
    split at hs'
    · cases hs'
    · exact hs'
  · exact admitted_of_no_source fun _ => rfl
  · obtain ⟨v, hv, heq⟩ := hd.moves_follow
    obtain ⟨hub, journal, hobserved⟩ := v.observeRoot_eq 0
    rw [Happening.apply, heq, hobserved]
    split
    · exact (hw.moves hv).of_source? fun _ _ hs => hs
    · exact hw.moves hv
  · exact hw
  · obtain ⟨found, following, hd⟩ := hd
    rw [Happening.apply, disposeDiscovery_eq hd]
    exact hw

/-- Whatever happens, the attached sources were valid when they joined. -/
lemma Admitted.afterAll (hw : w.Admitted) (hd : w.HasDiscovery d) (run : List Happening) :
    (w.afterAll run).Admitted := by
  induction run generalizing w with
  | nil => exact hw
  | cons h run ih => exact ih (hw.apply hd h) (hd.apply h)

end Workspace

end DesignTokens
