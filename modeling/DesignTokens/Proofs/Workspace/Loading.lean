import DesignTokens.Proofs.Workspace.Authority

/-!
# What the operations of a workspace do

This file says once what each operation of a workspace can do, so that no later proof opens it
again.  Beside what is noted, loading changes the records (`Stocked`), and the records it leaves are
those of the catalogue with the loads of the sources merged, one after another
(`catalogue_loadEach`).  A source that is attached joins the others at their end, or everything
stays as it is.

What a source gives when it is loaded (`loadOf?`) depends on the source and on the files alone.
Whatever holds of the catalogue without records and is kept by merging what a source gives, every
operation keeps (`holds_operation`).
-/

namespace DesignTokens

namespace Catalogue

/-- Merge a load, if there is one. -/
def stock (c : Catalogue) : Option Load → Catalogue
  | none => c
  | some l => c.merge l.id l.records

end Catalogue

namespace SourceDescriptor

/-- A source of a file has the identity of another one only if the two have the same file. -/
lemma eq_of_sourceId_eq {d d' : SourceDescriptor} {file : String} (hkind : d.kind ≠ .builtin)
    (hfile : d.filePath = some file) (h : d'.sourceId = d.sourceId) :
    d'.kind = d.kind ∧ d'.filePath.getD "None" = file := by
  have hchars : d'.sourceId.toList = d.sourceId.toList := by rw [h]
  obtain ⟨kind, _, _, path, _⟩ := d
  obtain ⟨kind', _, _, path', _⟩ := d'
  obtain rfl : path = some file := hfile
  cases kind with
  | builtin => exact absurd rfl hkind
  | stylesheet =>
    cases kind' <;> simp [sourceId, SourceKind.label] at hchars ⊢
    exact String.toList_inj.mp hchars
  | script =>
    cases kind' <;> simp [sourceId, SourceKind.label] at hchars ⊢
    exact String.toList_inj.mp hchars

end SourceDescriptor

namespace Source

variable {f : FileTree} {place : DatasetPlace} {d : SourceDescriptor}

/-- The source of a descriptor has that descriptor. -/
@[simp] lemma descriptor_ofDescriptor (place : DatasetPlace) (d : SourceDescriptor) :
    (ofDescriptor place d).descriptor = d := by
  unfold ofDescriptor
  split <;> rfl

/-- The source of a descriptor has the identity that the descriptor gives it. -/
@[simp] lemma id_ofDescriptor (place : DatasetPlace) (d : SourceDescriptor) :
    (ofDescriptor place d).id = d.sourceId := by
  rw [id, descriptor_ofDescriptor]

/-- The source of a descriptor has the file that the descriptor names. -/
@[simp] lemma path?_ofDescriptor (place : DatasetPlace) (d : SourceDescriptor) :
    (ofDescriptor place d).path? = d.path? := by
  rw [path?, descriptor_ofDescriptor]

/-- A valid source of another kind than the dataset has a file. -/
lemma exists_filePath_of_isValid (hkind : d.kind ≠ .builtin)
    (h : (ofDescriptor place d).isValid f = .ok true) : ∃ file, d.filePath = some file := by
  cases hfile : d.filePath with
  | some file => exact ⟨file, rfl⟩
  | none =>
    have hnone : (ofDescriptor place d).path? = none := by
      rw [path?_ofDescriptor, SourceDescriptor.path?, hfile]
      rfl
    rw [isValid, hnone] at h
    cases hd : d.kind with
    | builtin => exact absurd hd hkind
    | stylesheet => simp [ofDescriptor, hd] at h
    | script => simp [ofDescriptor, hd] at h

end Source

namespace Workspace

variable {w w' : Workspace} {id : String} {d : SourceDescriptor} {l : Load}

/-! ### The ground -/

/-- Two states have the same files, look at them in the same way, and have the same work to do. -/
structure SameGround (w w' : Workspace) : Prop where
  files_eq : w'.files = w.files
  place_eq : w'.place = w.place
  watching_eq : w'.watching = w.watching
  scheduled_eq : w'.scheduled = w.scheduled
  pending_eq : w'.pending = w.pending
  discoveries_eq : w'.discoveries = w.discoveries

/-- A state that does not change stays on its ground. -/
lemma SameGround.refl (w : Workspace) : w.SameGround w := ⟨rfl, rfl, rfl, rfl, rfl, rfl⟩

/-- Staying on the same ground is transitive. -/
lemma SameGround.trans {w'' : Workspace} (h : w.SameGround w') (h' : w'.SameGround w'') :
    w.SameGround w'' where
  files_eq := h'.files_eq.trans h.files_eq
  place_eq := h'.place_eq.trans h.place_eq
  watching_eq := h'.watching_eq.trans h.watching_eq
  scheduled_eq := h'.scheduled_eq.trans h.scheduled_eq
  pending_eq := h'.pending_eq.trans h.pending_eq
  discoveries_eq := h'.discoveries_eq.trans h.discoveries_eq

/-- Notes and signals leave the ground alone. -/
lemma Noted.sameGround (h : w.Noted w') : w.SameGround w' := by
  obtain ⟨_, _, rfl⟩ := h
  exact ⟨rfl, rfl, rfl, rfl, rfl, rfl⟩

/-- Watching the file of a source leaves the ground alone. -/
lemma sameGround_watch (w : Workspace) (s : Source) : w.SameGround (w.watch s).2 := by
  rcases w.watch_cases s with ⟨-, heq⟩ | ⟨p, -, heq⟩
  · rw [heq]
    exact SameGround.refl w
  · rw [heq]
    exact ⟨rfl, rfl, rfl, rfl, rfl, rfl⟩

/-- Giving up a source leaves the ground alone. -/
lemma sameGround_release (w : Workspace) (a : Attachment) : w.SameGround (w.release a) := by
  obtain ⟨_, heq⟩ := w.release_eq a
  rw [heq]
  exact ⟨rfl, rfl, rfl, rfl, rfl, rfl⟩

/-- Giving up all sources leaves the ground alone. -/
lemma sameGround_releaseAll (w : Workspace) : w.SameGround w.releaseAll := by
  have hfold : ∀ (as : List Attachment) (w : Workspace), w.SameGround (as.foldl release w) := by
    intro as
    induction as with
    | nil => exact SameGround.refl
    | cons a as ih => exact fun w => (sameGround_release w a).trans (ih _)
  obtain ⟨hfiles, hplace, hwatching, hscheduled, hpending, hdiscoveries⟩ :=
    hfold w.sources.values w
  exact ⟨hfiles, hplace, hwatching, hscheduled, hpending, hdiscoveries⟩

/-! ### Loading -/

/-- Two states differ only in the records, the journal and what listeners were told. -/
def Stocked (w w' : Workspace) : Prop :=
  ∃ catalogue journal notices, w' = { w with catalogue, journal, notices }

/-- A state that does not change is stocked. -/
lemma Stocked.refl (w : Workspace) : w.Stocked w := ⟨_, _, _, rfl⟩

/-- A state may be stocked again and again. -/
lemma Stocked.trans {w'' : Workspace} (h : w.Stocked w') (h' : w'.Stocked w'') :
    w.Stocked w'' := by
  obtain ⟨_, _, _, rfl⟩ := h
  obtain ⟨_, _, _, rfl⟩ := h'
  exact ⟨_, _, _, rfl⟩

/-- What is only noted is stocked with the same records. -/
lemma Noted.stocked (h : w.Noted w') : w.Stocked w' := by
  obtain ⟨_, _, rfl⟩ := h
  exact ⟨_, _, _, rfl⟩

/-- Stocking leaves the ground alone. -/
lemma Stocked.sameGround (h : w.Stocked w') : w.SameGround w' := by
  obtain ⟨_, _, _, rfl⟩ := h
  exact ⟨rfl, rfl, rfl, rfl, rfl, rfl⟩

/-- Stocking leaves the sources alone. -/
lemma Stocked.sources_eq (h : w.Stocked w') : w'.sources = w.sources := by
  obtain ⟨_, _, _, rfl⟩ := h
  rfl

/-- The attached source with an identity. -/
def source? (w : Workspace) (id : String) : Option Source :=
  (w.sources.get? id).map Attachment.source

/-- What a source gives when it is loaded, if it is attached and can be loaded. -/
def loadOf? (w : Workspace) (id : String) : Option Load :=
  (w.source? id).bind fun s => (s.load w.files).toOption.map fun rs => ⟨id, s.priority, rs⟩

/-- A source gives what its load gives, if it is attached and can be loaded. -/
lemma loadOf?_eq_some_iff :
    w.loadOf? id = some l
      ↔ ∃ s rs, w.source? id = some s ∧ s.load w.files = .ok rs ∧ l = ⟨id, s.priority, rs⟩ := by
  rw [loadOf?, Option.bind_eq_some_iff]
  refine exists_congr fun s => ?_
  cases s.load w.files with
  | error e => simp [Except.toOption]
  | ok rs => simp [Except.toOption, eq_comm]

/-- What a source gives has the identity of the source. -/
lemma id_of_loadOf? (h : w.loadOf? id = some l) : l.id = id := by
  obtain ⟨s, rs, -, -, rfl⟩ := loadOf?_eq_some_iff.mp h
  rfl

/-- Only the files and the sources count for what is loaded. -/
lemma loadOf?_congr (hfiles : w'.files = w.files) (hsource : w'.source? id = w.source? id) :
    w'.loadOf? id = w.loadOf? id := by
  rw [loadOf?, loadOf?, hfiles, hsource]

/-- Stocking makes no difference to what the sources give. -/
lemma Stocked.loadOf?_eq (h : w.Stocked w') : w'.loadOf? = w.loadOf? := by
  funext id
  refine loadOf?_congr h.sameGround.files_eq ?_
  rw [source?, source?, h.sources_eq]

/-- Loading a source does no more than stock the records. -/
lemma stocked_loadSource (w : Workspace) (id : String) : w.Stocked (w.loadSource id).2 := by
  unfold loadSource
  split
  · exact Stocked.refl w
  · split
    · exact (noted_remark _ _ _).stocked
    · exact ⟨_, _, _, rfl⟩

/-- Loading a source merges what it gives. -/
lemma catalogue_loadSource (w : Workspace) (id : String) :
    (w.loadSource id).2.catalogue = w.catalogue.stock (w.loadOf? id) := by
  unfold loadSource loadOf? source?
  split
  · next hnone =>
    rw [hnone]
    rfl
  · next a ha =>
    rw [ha]
    dsimp only [Option.map_some, Option.bind_some]
    split
    · next e he =>
      rw [he]
      rfl
    · next rs hrs =>
      rw [hrs]
      rfl

/-- Loading sources does no more than stock the records. -/
lemma stocked_loadEach (ids : List String) (w : Workspace) : w.Stocked (loadEach ids w).2 := by
  induction ids generalizing w with
  | nil => exact Stocked.refl w
  | cons id ids ih => exact (stocked_loadSource w id).trans (ih _)

/-- Merge what sources give, one after another. -/
def stockEach (w : Workspace) (c : Catalogue) (ids : List String) : Catalogue :=
  ids.foldl (fun c id => c.stock (w.loadOf? id)) c

/-- The sources are merged one after another, from the first on. -/
lemma stockEach_cons (w : Workspace) (c : Catalogue) (id : String) (ids : List String) :
    w.stockEach c (id :: ids) = w.stockEach (c.stock (w.loadOf? id)) ids := rfl

/-- Loading sources one after another merges what they give. -/
lemma catalogue_loadEach (ids : List String) (w : Workspace) :
    (loadEach ids w).2.catalogue = w.stockEach w.catalogue ids := by
  induction ids generalizing w with
  | nil => rfl
  | cons id ids ih =>
    have hstep : (loadEach (id :: ids) w).2 = (loadEach ids (w.loadSource id).2).2 := rfl
    rw [hstep, ih, catalogue_loadSource, stockEach_cons, stockEach, stockEach,
      (stocked_loadSource w id).loadOf?_eq]

/-- Loading all sources does no more than stock the records. -/
lemma stocked_loadAll (w : Workspace) : w.Stocked w.loadAll.2 :=
  (stocked_loadEach _ w).trans (loadAll_spec w).2.stocked

/-- Loading everything merges what the enabled sources give. -/
lemma catalogue_loadAll (w : Workspace) :
    w.loadAll.2.catalogue = w.stockEach w.catalogue w.enabledIds := by
  rw [← catalogue_loadEach]
  exact (loadAll_spec w).2.catalogue_eq

/-- A source whose file changed is loaded, if it is attached. -/
lemma catalogue_sourceChanged (w : Workspace) (id : String) :
    (w.sourceChanged id).2.catalogue = w.catalogue.stock (w.loadOf? id) := by
  unfold sourceChanged
  by_cases hthere : w.sources.contains id
  · rw [if_pos hthere]
    exact (noted_fireTokens _).catalogue_eq.trans (catalogue_loadSource _ id)
  · have hnone : w.loadOf? id = none := by
      rw [Bool.not_eq_true, OrderedMap.contains, Option.isSome_eq_false_iff,
        Option.isNone_iff_eq_none] at hthere
      rw [loadOf?, source?, hthere]
      rfl
    rw [if_neg hthere, hnone]
    rfl

/-- The change of a file does no more than stock the records. -/
lemma stocked_sourceChanged (w : Workspace) (id : String) : w.Stocked (w.sourceChanged id).2 := by
  unfold sourceChanged
  split
  · exact (noted_remark _ _ _).stocked.trans
      ((stocked_loadSource _ id).trans (noted_fireTokens _).stocked)
  · exact Stocked.refl w

/-- Loading everything anew merges what the enabled sources give with nothing. -/
lemma catalogue_reload (w : Workspace) :
    w.reload.2.catalogue = w.stockEach .empty w.enabledIds :=
  catalogue_loadAll _

/-- A reload does no more than stock the records. -/
lemma stocked_reload (w : Workspace) : w.Stocked w.reload.2 := by
  have hreset : w.Stocked (w.remark .info "Reloading all sources").resetCatalogue := ⟨_, _, _, rfl⟩
  exact hreset.trans (stocked_loadAll _)

/-- Records outlive the removal of their source. -/
lemma catalogue_removeSource (w : Workspace) (id : String) :
    (w.removeSource id).2.catalogue = w.catalogue := by
  unfold removeSource
  split
  · rfl
  · exact (noted_fireSources _).catalogue_eq.trans (sameStore_release _ _).catalogue_eq

/-! ### Attaching -/

/-- A source joins the others if there is none with its identity and it is valid. -/
lemma outcome_attach (w : Workspace) (d : SourceDescriptor) :
    (w.attach d).1 = if w.sources.contains d.sourceId then .ok false
      else (Source.ofDescriptor w.place d).isValid w.files := by
  unfold attach checkNew
  by_cases hthere : w.sources.contains d.sourceId
  · rw [if_pos hthere, if_pos hthere]
  · rw [if_neg hthere, if_neg hthere]
    dsimp only
    unfold attachChecked
    dsimp only
    split
    · next why hwhy => exact hwhy.symm
    · next hvalid => exact hvalid.symm
    · next hnot => exact hnot.symm

/-- A source that joins is watched and stands behind the others. -/
lemma attach_of_joined (h : (w.attach d).1 = .ok true) :
    ∃ journal, (w.attach d).2 = { (w.watch (Source.ofDescriptor w.place d)).2 with
      sources := w.sources.insert d.sourceId
        ⟨Source.ofDescriptor w.place d, (w.watch (Source.ofDescriptor w.place d)).1⟩
      journal } := by
  have hsources : (w.watch (Source.ofDescriptor w.place d)).2.sources = w.sources :=
    (sameStore_watch w _).sources_eq
  revert h
  unfold attach checkNew
  by_cases hthere : w.sources.contains d.sourceId
  · rw [if_pos hthere]
    intro h
    cases h
  · rw [if_neg hthere]
    dsimp only
    unfold attachChecked
    dsimp only
    split
    · intro h
      cases h
    · intro _
      rw [Source.id_ofDescriptor, hsources]
      exact ⟨_, rfl⟩
    · intro h
      cases h

/-- A source that does not join is remarked upon at most. -/
lemma remarked_attach (h : (w.attach d).1 ≠ .ok true) : w.Remarked (w.attach d).2 := by
  revert h
  unfold attach checkNew
  by_cases hthere : w.sources.contains d.sourceId
  · rw [if_pos hthere]
    exact fun _ => ⟨_, rfl⟩
  · rw [if_neg hthere]
    dsimp only
    unfold attachChecked
    dsimp only
    split
    · exact fun _ => ⟨_, rfl⟩
    · exact fun h => absurd rfl h
    · exact fun _ => ⟨_, rfl⟩

/-- A source that does not join leaves no more than notes. -/
lemma attach_of_not_joined (h : (w.attach d).1 ≠ .ok true) : w.Noted (w.attach d).2 :=
  (remarked_attach h).noted

/-- Attaching a source leaves the ground alone. -/
lemma sameGround_attach (w : Workspace) (d : SourceDescriptor) : w.SameGround (w.attach d).2 := by
  by_cases h : (w.attach d).1 = .ok true
  · obtain ⟨_, heq⟩ := attach_of_joined h
    have hwatch := sameGround_watch w (Source.ofDescriptor w.place d)
    rw [heq]
    exact ⟨hwatch.files_eq, hwatch.place_eq, hwatch.watching_eq, hwatch.scheduled_eq,
      hwatch.pending_eq, hwatch.discoveries_eq⟩
  · exact (attach_of_not_joined h).sameGround

/-- Attaching a source merges no records. -/
lemma catalogue_attach (w : Workspace) (d : SourceDescriptor) :
    (w.attach d).2.catalogue = w.catalogue := by
  by_cases h : (w.attach d).1 = .ok true
  · obtain ⟨_, heq⟩ := attach_of_joined h
    rw [heq]
    exact (sameStore_watch w _).catalogue_eq
  · obtain ⟨_, _, heq⟩ := attach_of_not_joined h
    rw [heq]

/-- What every attaching of one source does, attaching several does. -/
lemma attachEach_induction {P : Workspace → Prop}
    (hattach : ∀ w d, P w → P (w.attach d).2) (ds : List SourceDescriptor) (hw : P w) :
    P (attachEach ds w).2 := by
  induction ds generalizing w with
  | nil => exact hw
  | cons d ds ih =>
    have hstep := hattach w d hw
    rw [attachEach]
    split
    · next heq => rwa [heq] at hstep
    · next heq =>
      rw [heq] at hstep
      exact ih hstep

/-- Attaching sources leaves the ground alone. -/
lemma sameGround_attachEach (ds : List SourceDescriptor) (w : Workspace) :
    w.SameGround (attachEach ds w).2 :=
  attachEach_induction (P := fun w' => w.SameGround w')
    (fun w' d hw' => hw'.trans (sameGround_attach w' d)) ds (SameGround.refl w)

/-- Attaching sources leaves the records alone. -/
lemma catalogue_attachEach (ds : List SourceDescriptor) (w : Workspace) :
    (attachEach ds w).2.catalogue = w.catalogue :=
  attachEach_induction (P := fun w' => w'.catalogue = w.catalogue)
    (fun w' d hw' => (catalogue_attach w' d).trans hw') ds rfl

/-- A source that joins is loaded once the listeners know about it. -/
lemma addSource_of_joined (h : (w.attach d).1 = .ok true) :
    w.addSource d = (.ok true, (w.attach d).2.fireSources.loadAdded d.sourceId) := by
  unfold addSource
  cases hattach : w.attach d with
  | mk outcome w' =>
    rw [hattach] at h
    obtain rfl : outcome = .ok true := h
    rfl

/-- An addition of a source that does not join stops there. -/
lemma addSource_of_not_joined (h : (w.attach d).1 ≠ .ok true) : w.addSource d = w.attach d := by
  unfold addSource
  split
  · next heq =>
    rw [heq] at h
    exact absurd rfl h
  · next heq => exact heq.symm

/-- An addition merges what the source gives, if it joins the others. -/
lemma catalogue_addSource (w : Workspace) (d : SourceDescriptor) :
    (w.addSource d).2.catalogue = if (w.attach d).1 = .ok true
      then w.catalogue.stock ((w.attach d).2.loadOf? d.sourceId) else w.catalogue := by
  by_cases h : (w.attach d).1 = .ok true
  · obtain ⟨_, _, hadded⟩ := noted_loadAdded (w.attach d).2.fireSources d.sourceId
    have hfired := noted_fireSources (w.attach d).2
    rw [if_pos h, addSource_of_joined h, hadded]
    dsimp only
    rw [catalogue_loadSource, hfired.stocked.loadOf?_eq, hfired.catalogue_eq, catalogue_attach]
  · rw [if_neg h, addSource_of_not_joined h, catalogue_attach]

/-- An addition leaves the ground alone. -/
lemma sameGround_addSource (w : Workspace) (d : SourceDescriptor) :
    w.SameGround (w.addSource d).2 := by
  by_cases h : (w.attach d).1 = .ok true
  · rw [addSource_of_joined h]
    exact (sameGround_attach w d).trans ((noted_fireSources _).sameGround.trans
      ((stocked_loadSource _ _).sameGround.trans (noted_loadAdded _ _).sameGround))
  · rw [addSource_of_not_joined h]
    exact sameGround_attach w d

/-- A removal leaves the ground alone. -/
lemma sameGround_removeSource (w : Workspace) (id : String) :
    w.SameGround (w.removeSource id).2 := by
  unfold removeSource
  split
  · exact SameGround.refl w
  · next a _ =>
    have herased : w.SameGround { w with sources := w.sources.erase id } :=
      ⟨rfl, rfl, rfl, rfl, rfl, rfl⟩
    exact herased.trans ((sameGround_release _ a).trans
      ((noted_remark _ _ _).sameGround.trans (noted_fireSources _).sameGround))

/-! ### Starting anew -/

/-- The state in which a start attaches its sources. -/
def cleared (w : Workspace) : Workspace :=
  if w.sources.isEmpty then w.remark .info "Initializing token sources"
  else (w.remark .info "Initializing token sources").releaseAll.resetCatalogue

/-- A start ends where a source cannot be looked up. -/
lemma populate_of_error {ds : List SourceDescriptor} {why : PathFault}
    (h : attachEach (withDataset ds) w.cleared = (.error why, w')) :
    w.populate ds = (.error why, w') := by
  unfold populate
  dsimp only
  split
  · next heq =>
    cases heq.symm.trans h
    rfl
  · next heq => cases heq.symm.trans h

/-- A start goes on with the loads once its sources are attached. -/
lemma populate_of_ok {ds : List SourceDescriptor}
    (h : attachEach (withDataset ds) w.cleared = (.ok (), w')) :
    w.populate ds = (.ok w'.finishPopulating.1, w'.finishPopulating.2) := by
  unfold populate
  dsimp only
  split
  · next heq => cases heq.symm.trans h
  · next heq =>
    cases heq.symm.trans h
    rfl

/-- Giving up the old sources leaves the ground alone. -/
lemma sameGround_cleared (w : Workspace) : w.SameGround w.cleared := by
  have hremark := (noted_remark w .info "Initializing token sources").sameGround
  unfold cleared
  split
  · exact hremark
  · have hreleased := hremark.trans (sameGround_releaseAll _)
    exact ⟨hreleased.files_eq, hreleased.place_eq, hreleased.watching_eq, hreleased.scheduled_eq,
      hreleased.pending_eq, hreleased.discoveries_eq⟩

/-- A start attaches its sources where there are none. -/
lemma sources_cleared (w : Workspace) : w.cleared.sources = .empty := by
  unfold cleared
  split
  · next hnone => exact OrderedMap.ext_entries (List.isEmpty_iff.mp hnone)
  · rfl

/-- A start forgets the records only if there are sources to give up. -/
lemma catalogue_cleared (w : Workspace) :
    w.cleared.catalogue = if w.sources.isEmpty then w.catalogue else .empty := by
  unfold cleared
  split <;> rfl

/-- Starting loads what was attached. -/
lemma noted_finishPopulating (w : Workspace) : w.loadAll.2.Noted w.finishPopulating.2 :=
  noted_remark _ _ _

/-- A start leaves the ground alone. -/
lemma sameGround_populate (w : Workspace) (ds : List SourceDescriptor) :
    w.SameGround (w.populate ds).2 := by
  have hattached := (sameGround_cleared w).trans (sameGround_attachEach (withDataset ds) w.cleared)
  cases hattach : attachEach (withDataset ds) w.cleared with
  | mk outcome w' =>
    rw [hattach] at hattached
    cases outcome with
    | error why =>
      rw [populate_of_error hattach]
      exact hattached
    | ok u =>
      rw [populate_of_ok hattach]
      exact hattached.trans ((stocked_loadAll w').sameGround.trans
        (noted_finishPopulating w').sameGround)

/-- An operation leaves the ground alone, unless the files become other ones. -/
lemma Operation.sameGround_apply (w : Workspace) (op : Operation) :
    { w with files := (op.apply w).files }.SameGround (op.apply w) := by
  have hground : ∀ {w' : Workspace}, w.SameGround w' → { w with files := w'.files }.SameGround w' :=
    fun h => ⟨rfl, h.place_eq, h.watching_eq, h.scheduled_eq, h.pending_eq, h.discoveries_eq⟩
  cases op with
  | populate ds => exact hground (sameGround_populate w ds)
  | addSource d => exact hground (sameGround_addSource w d)
  | removeSource id => exact hground (sameGround_removeSource w id)
  | loadSource id => exact hground (stocked_loadSource w id).sameGround
  | loadAll => exact hground (stocked_loadAll w).sameGround
  | reload =>
    have hreset : w.SameGround (w.remark .info "Reloading all sources").resetCatalogue :=
      ⟨rfl, rfl, rfl, rfl, rfl, rfl⟩
    exact hground (hreset.trans (stocked_loadAll _).sameGround)
  | sourceChanged id => exact hground (stocked_sourceChanged w id).sameGround
  | listen => exact ⟨rfl, rfl, rfl, rfl, rfl, rfl⟩
  | setFiles files => exact ⟨rfl, rfl, rfl, rfl, rfl, rfl⟩

/-! ### What loads keep -/

section Invariants

variable {P : Catalogue → Prop} (hempty : P .empty)
  (hload : ∀ {w : Workspace} {id : String} {l : Load} {c : Catalogue}, w.loadOf? id = some l →
    P c → P (c.merge l.id l.records))

include hload

/-- What merges keep is kept when a load is merged, if there is one. -/
lemma holds_stock {c : Catalogue} (hc : P c) (w : Workspace) (id : String) :
    P (c.stock (w.loadOf? id)) := by
  cases hl : w.loadOf? id with
  | none => exact hc
  | some l => exact hload hl hc

/-- What merges keep is kept when several loads are merged. -/
lemma holds_stockEach (w : Workspace) (ids : List String) {c : Catalogue} (hc : P c) :
    P (w.stockEach c ids) := by
  induction ids generalizing c with
  | nil => exact hc
  | cons id ids ih => exact ih (holds_stock hload hc w id)

/-- What merges keep, loading all sources keeps. -/
lemma holds_loadAll (hw : P w.catalogue) : P w.loadAll.2.catalogue := by
  rw [catalogue_loadAll]
  exact holds_stockEach hload w _ hw

include hempty

/-- What merges keep, and what holds without records, a start keeps. -/
lemma holds_populate (hw : P w.catalogue) (ds : List SourceDescriptor) :
    P (w.populate ds).2.catalogue := by
  have hcleared : P w.cleared.catalogue := by
    unfold cleared
    split
    · exact hw
    · exact hempty
  have hattached : P (attachEach (withDataset ds) w.cleared).2.catalogue := by
    rw [catalogue_attachEach]
    exact hcleared
  cases hattach : attachEach (withDataset ds) w.cleared with
  | mk outcome v =>
    rw [hattach] at hattached
    cases outcome with
    | error why =>
      rw [populate_of_error hattach]
      exact hattached
    | ok u =>
      rw [populate_of_ok hattach]
      exact holds_loadAll hload hattached

/-- What merges keep, and what holds without records, every operation keeps. -/
lemma holds_operation (hw : P w.catalogue) (op : Operation) : P (op.apply w).catalogue := by
  cases op with
  | populate ds => exact holds_populate hempty hload hw ds
  | addSource d =>
    rw [Operation.apply, catalogue_addSource]
    split
    · exact holds_stock hload hw _ _
    · exact hw
  | removeSource id =>
    rw [Operation.apply, catalogue_removeSource]
    exact hw
  | loadSource id =>
    rw [Operation.apply, catalogue_loadSource]
    exact holds_stock hload hw _ _
  | loadAll => exact holds_loadAll hload hw
  | reload =>
    rw [Operation.apply, catalogue_reload]
    exact holds_stockEach hload w _ hempty
  | sourceChanged id =>
    rw [Operation.apply, catalogue_sourceChanged]
    exact holds_stock hload hw _ _
  | listen => exact hw
  | setFiles files => exact hw

end Invariants

end Workspace

end DesignTokens
