import DesignTokens.Proofs.Workspace.Moves

/-!
# Which observers run

Observers are started when sources are attached and when a discovery begins to follow, and ended
when sources are removed, given up or replaced and when the discovery ends.  Here the observers that
run are compared with what asks for them: the attached sources that are to be watched, and a
discovery that follows files.

In every state that a run leads to, the two agree one to one (`observers_perm`): no observer
outlives its source, and none is started twice.  The heart of it are the watches of the attached
sources (`Owned`), which every move keeps: a source that is to be watched has a watch of its own on
its file, on its own behalf, and the observers of files that run are those of these watches.
-/

namespace DesignTokens

namespace Hub

variable {κ : Type} {h : Hub κ} {n : ℕ}

/-- Stopping a watch ends its observer. -/
lemma observers_stop (htarget : (h.target? n).isSome) :
    (h.stop n).observers = h.observers.erase (.file n) := by
  cases hw : h.watches[n]? with
  | none =>
    rw [target?, hw] at htarget
    cases htarget
  | some w => rw [stop_of_some hw]

/-- Only a watch that there is has a target. -/
lemma lt_of_target? {target : Path × κ} (htarget : h.target? n = some target) :
    n < h.watches.length := by
  obtain ⟨w, hw, -⟩ := Option.map_eq_some_iff.mp htarget
  exact (List.getElem?_eq_some_iff.mp hw).1

/-- A follower observes a tree if one of its observers runs. -/
lemma isFollowing_iff : h.isFollowing n ↔ ∃ root, .tree n root ∈ h.observers := by
  rw [isFollowing, List.any_eq_true]
  constructor
  · rintro ⟨o, ho, hn⟩
    cases o with
    | file m => cases hn
    | tree m root =>
      obtain rfl := eq_of_beq hn
      exact ⟨root, ho⟩
  · rintro ⟨root, ho⟩
    exact ⟨_, ho, beq_self_eq_true n⟩

/-- Stopping the observer of a tree ends this one and no other. -/
lemma mem_observers_stopTree {o : Observer} :
    o ∈ (h.stopTree n).observers ↔ o ∈ h.observers ∧ ∀ root, o ≠ .tree n root := by
  rw [stopTree, List.mem_filter]
  refine and_congr_right fun _ => ?_
  cases o with
  | file m => simp
  | tree m root => simp

end Hub

namespace Workspace

variable {w w' : Workspace} {d : Discovery} {e : SourceDescriptor} {id : String} {a : Attachment}
  {n : ℕ} {root : Path} {o : Observer}

/-! ### The watches of attached sources -/

/-- The watch of an attached source is on its file, on behalf of its identity, if watching is on and
the source is to be watched; otherwise there is none. -/
def WellWatched (w : Workspace) (id : String) (a : Attachment) : Prop :=
  a.watch.map w.hub.target? =
    (if w.watching then a.source.watched? else none).map fun p => some (p, id)

/-- Attached sources have their watches, and the observers of files are those of these watches. -/
structure Owned (w : Workspace) : Prop where
  /-- No observer runs twice. -/
  nodup : w.hub.observers.Nodup
  /-- Attached sources have their watches. -/
  watched : ∀ {id a}, w.sources.get? id = some a → w.WellWatched id a
  /-- The observers of files are those of the watches of attached sources. -/
  file_iff : ∀ n, .file n ∈ w.hub.observers ↔
    ∃ id a, w.sources.get? id = some a ∧ a.watch = some n

/-- Whether a source is well watched depends on the watching and on the targets only. -/
lemma WellWatched.of_eq (h : w.WellWatched id a) (hwatching : w'.watching = w.watching)
    (htarget : w'.hub.target? = w.hub.target?) : w'.WellWatched id a := by
  rw [WellWatched, hwatching, htarget]
  exact h

/-- A watch that there is, is on the file of its source. -/
lemma WellWatched.exists_target (h : w.WellWatched id a) (hn : a.watch = some n) :
    ∃ p, w.watching = true ∧ a.source.watched? = some p ∧ w.hub.target? n = some (p, id) := by
  rw [WellWatched, hn, Option.map_some] at h
  obtain ⟨p, hp, htarget⟩ := Option.map_eq_some_iff.mp h.symm
  split at hp
  · next hwatching => exact ⟨p, hwatching, hp, htarget.symm⟩
  · cases hp

/-- A source that is to be watched has a watch. -/
lemma WellWatched.exists_watch (h : w.WellWatched id a) {p : Path} (hwatching : w.watching = true)
    (hp : a.source.watched? = some p) :
    ∃ n, a.watch = some n ∧ w.hub.target? n = some (p, id) := by
  rw [WellWatched, hwatching, if_pos rfl, hp, Option.map_some] at h
  exact Option.map_eq_some_iff.mp h

/-- Attached sources do not share a watch. -/
lemma Owned.watch_unique (hw : w.Owned) {id' : String} {a' : Attachment}
    (ha : w.sources.get? id = some a) (ha' : w.sources.get? id' = some a')
    (hn : a.watch = some n) (hn' : a'.watch = some n) : id = id' := by
  obtain ⟨p, -, -, htarget⟩ := (hw.watched ha).exists_target hn
  obtain ⟨p', -, -, htarget'⟩ := (hw.watched ha').exists_target hn'
  exact congrArg Prod.snd (Option.some.inj (htarget.symm.trans htarget'))

/-- Only the sources, the observers and the targets of the watches count. -/
lemma Owned.of_eq (hw : w.Owned) (hwatching : w'.watching = w.watching)
    (hsources : w'.sources = w.sources) (htargets : w.hub.SameTargets w'.hub) : w'.Owned where
  nodup := by
    rw [htargets.observers_eq]
    exact hw.nodup
  watched := by
    intro id a ha
    rw [hsources] at ha
    exact (hw.watched ha).of_eq hwatching htargets.target?_eq
  file_iff := by
    rw [htargets.observers_eq, hsources]
    exact hw.file_iff

/-! ### A source joins -/

/-- A source that joins is attached with its watch, beside the others. -/
lemma get?_sources_attach (h : (w.attach e).1 = .ok true) :
    (w.attach e).2.sources.get? id = some a ↔
      (id = e.sourceId ∧ a = ⟨Source.ofDescriptor w.place e,
        (w.watch (Source.ofDescriptor w.place e)).1⟩) ∨ w.sources.get? id = some a := by
  have hnew : w.sources.get? e.sourceId = none :=
    Option.map_eq_none_iff.mp (source?_eq_none_of_joined h)
  obtain ⟨journal, heq⟩ := attach_of_joined h
  rw [heq]
  dsimp only
  rw [OrderedMap.get?_insert]
  by_cases hid : e.sourceId = id
  · subst hid
    simp [hnew, eq_comm]
  · simp [hid, Ne.symm hid]

/-- A new watch has a number that no attached source has. -/
lemma Owned.not_mem_observers (hw : w.Owned) : .file w.hub.watches.length ∉ w.hub.observers := by
  intro hmem
  obtain ⟨id, a, ha, hn⟩ := (hw.file_iff _).mp hmem
  obtain ⟨q, -, -, htarget⟩ := (hw.watched ha).exists_target hn
  exact Nat.lt_irrefl _ (Hub.lt_of_target? htarget)

/-- Where a source that joins is not to be watched, the observers stay. -/
lemma Owned.attach_of_not_watched (hw : w.Owned) (h : (w.attach e).1 = .ok true)
    (hnone : (if w.watching then (Source.ofDescriptor w.place e).watched? else none) = none)
    (hwatch : w.watch (Source.ofDescriptor w.place e) = (none, w)) :
    (w.attach e).2.Owned ∧ (w.attach e).2.hub = w.hub := by
  obtain ⟨journal, heq⟩ := attach_of_joined h
  have hhub : (w.attach e).2.hub = w.hub := by rw [heq, hwatch]
  have hwatching : (w.attach e).2.watching = w.watching := by rw [heq, hwatch]
  refine ⟨⟨hhub ▸ hw.nodup, ?_, ?_⟩, hhub⟩
  · intro id a ha
    rcases (get?_sources_attach h).mp ha with ⟨rfl, rfl⟩ | hold
    · rw [WellWatched, hwatching, hwatch, hnone]
      rfl
    · exact (hw.watched hold).of_eq hwatching (congrArg Hub.target? hhub)
  · intro n
    rw [hhub, hw.file_iff]
    refine exists_congr fun id => exists_congr fun a => ?_
    rw [get?_sources_attach h]
    refine ⟨fun h => ⟨Or.inr h.1, h.2⟩, ?_⟩
    rintro ⟨⟨-, rfl⟩ | hold, hn⟩
    · rw [hwatch] at hn
      cases hn
    · exact ⟨hold, hn⟩

/-- Where a source that joins is to be watched, its watch is new, and one more observer runs. -/
lemma Owned.attach_of_watched (hw : w.Owned) (h : (w.attach e).1 = .ok true) {p : Path}
    (hp : (if w.watching then (Source.ofDescriptor w.place e).watched? else none) = some p)
    (hwatch : w.watch (Source.ofDescriptor w.place e) = (some w.hub.watches.length,
      { w with hub := (w.hub.addWatch p e.sourceId).start w.hub.watches.length }.note
        (Hub.startEntry p))) :
    (w.attach e).2.Owned ∧ (w.attach e).2.hub.observers =
      w.hub.observers ++ [.file w.hub.watches.length] := by
  obtain ⟨journal, heq⟩ := attach_of_joined h
  have hfresh := hw.not_mem_observers
  -- No observer has the number of the new watch yet, so that starting it adds one.
  have hstart : (w.hub.addWatch p e.sourceId).start w.hub.watches.length =
      { w.hub.addWatch p e.sourceId with
        observers := w.hub.observers ++ [.file w.hub.watches.length] } :=
    if_neg fun hmem => hfresh (List.contains_iff_mem.mp hmem)
  have hhub : (w.attach e).2.hub = { w.hub.addWatch p e.sourceId with
      observers := w.hub.observers ++ [.file w.hub.watches.length] } := by
    rw [heq, hwatch, ← hstart]
    rfl
  have hobservers : (w.attach e).2.hub.observers =
      w.hub.observers ++ [.file w.hub.watches.length] := by rw [hhub]
  have htarget : ∀ n, (w.attach e).2.hub.target? n = (w.hub.addWatch p e.sourceId).target? n :=
    fun n => by rw [hhub]; rfl
  have hwatching : (w.attach e).2.watching = w.watching := by rw [heq, hwatch]; rfl
  refine ⟨⟨?_, ?_, ?_⟩, hobservers⟩
  · rw [hobservers, List.nodup_append]
    exact ⟨hw.nodup, List.nodup_singleton _, fun o ho o' ho' hoo' =>
      hfresh (List.mem_singleton.mp ho' ▸ hoo' ▸ ho)⟩
  · intro id a ha
    rcases (get?_sources_attach h).mp ha with ⟨rfl, rfl⟩ | hold
    · rw [WellWatched, hwatching, hwatch, hp, Option.map_some, Option.map_some, htarget,
        Hub.target?_addWatch_self]
    · cases hwatch' : a.watch with
      | none =>
        have hkept := hw.watched hold
        rw [WellWatched, hwatch', Option.map_none] at hkept
        rw [WellWatched, hwatching, hwatch', Option.map_none]
        exact hkept
      | some m =>
        obtain ⟨q, hon, hq, hm⟩ := (hw.watched hold).exists_target hwatch'
        rw [WellWatched, hwatching, hon, if_pos rfl, hq, hwatch', Option.map_some,
          Option.map_some, htarget, Hub.target?_addWatch_of_some hm]
  · intro n
    rw [hobservers, List.mem_append, List.mem_singleton, hw.file_iff]
    constructor
    · rintro (⟨id, a, ha, hn⟩ | heq')
      · exact ⟨id, a, (get?_sources_attach h).mpr (Or.inr ha), hn⟩
      · obtain rfl := Observer.file.inj heq'
        exact ⟨_, _, (get?_sources_attach h).mpr (Or.inl ⟨rfl, rfl⟩), by rw [hwatch]⟩
    · rintro ⟨id, a, ha, hn⟩
      rcases (get?_sources_attach h).mp ha with ⟨-, rfl⟩ | hold
      · rw [hwatch] at hn
        exact Or.inr (congrArg Observer.file (Option.some.inj hn).symm)
      · exact Or.inl ⟨id, a, hold, hn⟩

/-- A source that joins gets its watch, and the observer of the watch is started. -/
lemma Owned.attach (hw : w.Owned) (h : (w.attach e).1 = .ok true) :
    (w.attach e).2.Owned ∧
      ∀ n root, .tree n root ∈ (w.attach e).2.hub.observers ↔ .tree n root ∈ w.hub.observers := by
  rcases w.watch_cases (Source.ofDescriptor w.place e) with ⟨hnone, hwatch⟩ | ⟨p, hp, hwatch⟩
  · obtain ⟨howned, hhub⟩ := hw.attach_of_not_watched h hnone hwatch
    exact ⟨howned, fun _ _ => by rw [hhub]⟩
  · rw [Source.id_ofDescriptor] at hwatch
    obtain ⟨howned, hobservers⟩ := hw.attach_of_watched h hp hwatch
    exact ⟨howned, fun _ _ => by simp [hobservers]⟩

/-! ### Sources are given up -/

/-- Giving up a source ends the observer of its watch, and no other. -/
lemma observers_release (hnodup : w.hub.observers.Nodup) (ha : w.WellWatched id a) :
    (w.release a).hub.observers.Nodup ∧ (w.release a).hub.target? = w.hub.target? ∧
      (w.release a).watching = w.watching ∧
      ∀ o, o ∈ (w.release a).hub.observers ↔
        o ∈ w.hub.observers ∧ ∀ n, a.watch = some n → o ≠ .file n := by
  have hhub := w.hub_release a
  have hwatching := (sameGround_release w a).watching_eq
  cases hn : a.watch with
  | none =>
    rw [hn] at hhub
    rw [hhub]
    exact ⟨hnodup, rfl, hwatching, fun o => by simp⟩
  | some n =>
    obtain ⟨p, -, hp, htarget⟩ := ha.exists_target hn
    rw [hn, hp] at hhub
    have hstop := Hub.observers_stop (htarget ▸ rfl : (w.hub.target? n).isSome)
    rw [hhub, hstop]
    refine ⟨hnodup.erase _, funext fun _ => Hub.target?_stop, hwatching, fun o => ?_⟩
    rw [hnodup.mem_erase_iff, and_comm]
    simp

/-- Giving up sources ends the observers of their watches, and no others. -/
lemma observers_foldl_release (as : List Attachment) (hnodup : w.hub.observers.Nodup)
    (has : ∀ a ∈ as, ∃ id, w.WellWatched id a) :
    (as.foldl release w).hub.observers.Nodup ∧
      ∀ o, o ∈ (as.foldl release w).hub.observers ↔
        o ∈ w.hub.observers ∧ ∀ a ∈ as, ∀ n, a.watch = some n → o ≠ .file n := by
  induction as generalizing w with
  | nil => exact ⟨hnodup, fun o => by simp⟩
  | cons a as ih =>
    obtain ⟨id, ha⟩ := has a List.mem_cons_self
    obtain ⟨hnodup', htarget, hwatching, hmem⟩ := observers_release hnodup ha
    have has' : ∀ a' ∈ as, ∃ id, (w.release a).WellWatched id a' := fun a' ha' => by
      obtain ⟨id', hw'⟩ := has a' (List.mem_cons_of_mem _ ha')
      exact ⟨id', hw'.of_eq hwatching htarget⟩
    obtain ⟨hdone, hall⟩ := ih hnodup' has'
    refine ⟨hdone, fun o => ?_⟩
    rw [List.foldl_cons, hall, hmem, List.forall_mem_cons, and_assoc]

/-- Once all sources are given up, no file is observed; trees still are. -/
lemma Owned.releaseAll (hw : w.Owned) :
    w.releaseAll.Owned ∧
      ∀ n root, .tree n root ∈ w.releaseAll.hub.observers ↔ .tree n root ∈ w.hub.observers := by
  have hwatched : ∀ a ∈ w.sources.values, ∃ id, w.WellWatched id a := fun a ha => by
    obtain ⟨id, hid⟩ := OrderedMap.mem_values_iff.mp ha
    exact ⟨id, hw.watched hid⟩
  obtain ⟨hnodup, hmem⟩ := observers_foldl_release w.sources.values hw.nodup hwatched
  have hhub : w.releaseAll.hub = (w.sources.values.foldl release w).hub := rfl
  refine ⟨⟨hhub ▸ hnodup, (fun ha => nomatch ha), fun n => ?_⟩, fun n root => ?_⟩
  · rw [hhub, hmem]
    refine ⟨?_, fun ⟨_, _, ha, _⟩ => nomatch ha⟩
    rintro ⟨hold, hnot⟩
    obtain ⟨id, a, ha, hn⟩ := (hw.file_iff n).mp hold
    exact absurd rfl (hnot a (OrderedMap.mem_values_iff.mpr ⟨id, ha⟩) n hn)
  · rw [hhub, hmem]
    exact and_iff_left fun _ _ _ _ => Observer.noConfusion

/-- A source that is removed takes its observer along. -/
lemma Owned.removeSource (hw : w.Owned) (id : String) :
    (w.removeSource id).2.Owned ∧ ∀ n root,
      .tree n root ∈ (w.removeSource id).2.hub.observers ↔ .tree n root ∈ w.hub.observers := by
  cases ha : w.sources.get? id with
  | none =>
    rw [removeSource_of_none ha]
    exact ⟨hw, fun _ _ => Iff.rfl⟩
  | some a =>
    obtain ⟨hnodup, htarget, hwatching, hmem⟩ := observers_release hw.nodup (hw.watched ha)
    obtain ⟨hsources, hhub⟩ := removeSource_of_some ha
    refine ⟨⟨hhub ▸ hnodup, ?_, fun n => ?_⟩, fun n root => ?_⟩
    · intro id' a' ha'
      rw [hsources, OrderedMap.get?_erase] at ha'
      split at ha'
      · cases ha'
      · exact (hw.watched ha').of_eq (sameGround_removeSource w id).watching_eq (hhub ▸ htarget)
    · rw [hhub, hmem, hw.file_iff, hsources]
      constructor
      · rintro ⟨⟨id', a', ha', hn⟩, hnot⟩
        have hne : id ≠ id' := by
          rintro rfl
          cases ha.symm.trans ha'
          exact hnot n hn rfl
        exact ⟨id', a', by rw [OrderedMap.get?_erase, if_neg hne, ha'], hn⟩
      · rintro ⟨id', a', ha', hn⟩
        rw [OrderedMap.get?_erase] at ha'
        split at ha'
        · cases ha'
        · next hne =>
          refine ⟨⟨id', a', ha', hn⟩, fun m hm heq => hne ?_⟩
          obtain rfl := Observer.file.inj heq
          exact hw.watch_unique ha ha' hm hn
    · rw [hhub, hmem]
      exact and_iff_left fun _ _ => Observer.noConfusion

/-! ### Moves -/

/-- Moves keep the watches, and start or end no observer of a tree. -/
lemma Owned.move (hw : w.Owned) (hmove : Move w w') :
    w'.Owned ∧ ∀ n root, .tree n root ∈ w'.hub.observers ↔ .tree n root ∈ w.hub.observers := by
  cases hmove with
  | still _ hsame =>
    refine ⟨hw.of_eq hsame.watching_eq hsame.sources_eq hsame.targets, fun n root => ?_⟩
    rw [hsame.targets.observers_eq]
  | join h => exact hw.attach h
  | remember _ _ _ => exact ⟨hw.of_eq rfl rfl (.refl _), fun _ _ => Iff.rfl⟩
  | leave _ => exact hw.removeSource _

/-- Moves keep the watches of the attached sources, and the observers of trees. -/
lemma Owned.moves (hw : w.Owned) (hmoves : w.Moves w') :
    w'.Owned ∧ ∀ n root, .tree n root ∈ w'.hub.observers ↔ .tree n root ∈ w.hub.observers := by
  induction hmoves with
  | refl => exact ⟨hw, fun _ _ => Iff.rfl⟩
  | tail _ hmove ih =>
    obtain ⟨howned, htrees⟩ := ih.1.move hmove
    exact ⟨howned, fun n root => (htrees n root).trans (ih.2 n root)⟩

/-! ### Following -/

namespace Happening

/-- Following begins: the search ends, and its root is a directory then. -/
def BeginsFollowing (w : Workspace) (root : Path) : Happening → Prop
  | follow => (w.follow 0).1.isOk ∧ w.files.isDirectory root = .ok true
  | _ => False

/-- The discovery stops, or is disposed of. -/
def EndsFollowing : Happening → Prop
  | unfollow | disposeDiscovery => True
  | _ => False

end Happening

/-- In a run, following began and did not end since. -/
def FollowsAfter (w : Workspace) (root : Path) (run : List Happening) : Prop :=
  ∃ before h rest, run = before ++ h :: rest ∧ h.BeginsFollowing (w.afterAll before) root ∧
    ∀ h' ∈ rest, ¬ h'.EndsFollowing

/-- Before anything has happened no files are followed. -/
lemma not_followsAfter_nil (w : Workspace) (root : Path) : ¬ w.FollowsAfter root [] := by
  rintro ⟨before, h, rest, heq, -⟩
  simp at heq

/-- One more thing that happens begins to follow, or leaves it at that unless it is the end. -/
lemma followsAfter_concat (w : Workspace) (root : Path) (run : List Happening) (h : Happening) :
    w.FollowsAfter root (run ++ [h]) ↔ h.BeginsFollowing (w.afterAll run) root ∨
      (w.FollowsAfter root run ∧ ¬ h.EndsFollowing) := by
  constructor
  · rintro ⟨before, h', rest, heq, hbegins, hnot⟩
    rcases History.cases_of_concat heq with ⟨rfl, rfl, -⟩ | ⟨rest', rfl, rfl⟩
    · exact Or.inl hbegins
    · rw [List.forall_mem_append, List.forall_mem_singleton] at hnot
      exact Or.inr ⟨⟨before, h', rest', rfl, hbegins, hnot.1⟩, hnot.2⟩
  · rintro (hbegins | ⟨⟨before, h', rest, rfl, hbegins, hnot⟩, hh⟩)
    · exact ⟨run, h, [], rfl, hbegins, List.forall_mem_nil _⟩
    · refine ⟨before, h', rest ++ [h], by simp, hbegins, ?_⟩
      exact List.forall_mem_append.mpr ⟨hnot, List.forall_mem_singleton.mpr hh⟩

/-- Observing the root starts an observer unless one runs, or there is no such directory. -/
lemma Owned.observeRoot (hw : w.Owned) (hd : w.HasDiscovery d)
    (hroot : ∀ n root, .tree n root ∈ w.hub.observers → n = 0 ∧ root = d.root) :
    (w.observeRoot 0).Owned ∧ ∀ n root, .tree n root ∈ (w.observeRoot 0).hub.observers ↔
      .tree n root ∈ w.hub.observers ∨
        n = 0 ∧ root = d.root ∧ w.files.isDirectory d.root = .ok true := by
  obtain ⟨found, following, hd⟩ := hd
  rw [Workspace.observeRoot, hd]
  dsimp only [List.getElem?_cons_zero]
  split
  · next hnew hdirectory =>
    have hfree : .tree 0 d.root ∉ w.hub.observers := fun hmem =>
      Bool.eq_false_iff.mp hnew (Hub.isFollowing_iff.mpr ⟨_, hmem⟩)
    have hstart : (w.hub.startTree 0 d.root).observers = w.hub.observers ++ [.tree 0 d.root] := by
      rw [Hub.startTree, if_neg (Bool.eq_false_iff.mp hnew)]
    have hhub : (w.hub.startTree 0 d.root).target? = w.hub.target? := by
      rw [Hub.startTree, if_neg (Bool.eq_false_iff.mp hnew)]
      rfl
    refine ⟨⟨?_, fun ha => (hw.watched ha).of_eq rfl hhub, fun n => ?_⟩, fun n root => ?_⟩
    · show (w.hub.startTree 0 d.root).observers.Nodup
      rw [hstart, List.nodup_append]
      exact ⟨hw.nodup, List.nodup_singleton _, fun o ho o' ho' hoo' =>
        hfree (List.mem_singleton.mp ho' ▸ hoo' ▸ ho)⟩
    · show .file n ∈ (w.hub.startTree 0 d.root).observers ↔ _
      rw [hstart, List.mem_append, hw.file_iff]
      simp [note]
    · show .tree n root ∈ (w.hub.startTree 0 d.root).observers ↔ _
      rw [hstart, List.mem_append, List.mem_singleton, Observer.tree.injEq]
      simp [hdirectory]
  · next hnot =>
    refine ⟨hw, fun n root => (or_iff_left_of_imp ?_).symm⟩
    rintro ⟨rfl, rfl, hdirectory⟩
    -- The root is a directory, so an observer runs already, and that on the same root.
    cases hfollowing : w.hub.isFollowing 0 with
    | false => exact (hnot hfollowing hdirectory).elim
    | true =>
      obtain ⟨root, hmem⟩ := Hub.isFollowing_iff.mp hfollowing
      exact (hroot 0 root hmem).2 ▸ hmem

/-- Ending the observer of the tree leaves the others. -/
lemma Owned.unfollow (hw : w.Owned)
    (hroot : ∀ n root, .tree n root ∈ w.hub.observers → n = 0) :
    (w.unfollow 0).Owned ∧ ∀ n root, .tree n root ∉ (w.unfollow 0).hub.observers := by
  have hmem : ∀ o, o ∈ (w.unfollow 0).hub.observers ↔
      o ∈ w.hub.observers ∧ ∀ root, o ≠ .tree 0 root := fun o => Hub.mem_observers_stopTree
  refine ⟨⟨hw.nodup.filter _, fun ha => (hw.watched ha).of_eq rfl rfl, fun n => ?_⟩,
    fun n root hrun => ?_⟩
  · rw [hmem, and_iff_left fun _ => Observer.noConfusion]
    exact hw.file_iff n
  · obtain ⟨hold, hnot⟩ := (hmem _).mp hrun
    exact hnot root (by rw [hroot n root hold])

/-- A state agrees with what asks for observers: the attached sources, and whether files are
followed. -/
structure Agrees (w : Workspace) (d : Discovery) (follows : Prop) : Prop where
  /-- There is the one discovery. -/
  discovery : w.HasDiscovery d
  /-- The sources were valid when they joined. -/
  admitted : w.Admitted
  /-- The sources have their watches. -/
  owned : w.Owned
  /-- The observer of the tree runs as long as files are followed. -/
  tree_iff : ∀ n root, .tree n root ∈ w.hub.observers ↔ n = 0 ∧ root = d.root ∧ follows

variable {follows : Prop} {h : Happening}

/-- The observer of the tree is not concerned by anything but the discovery's beginning and end. -/
lemma Agrees.apply_of_ne (hw : w.Agrees d follows) (hfollow : h ≠ .follow)
    (hunfollow : h ≠ .unfollow) (hdispose : h ≠ .disposeDiscovery) :
    (h.apply w).Agrees d follows := by
  have hkept : (h.apply w).Owned ∧ ∀ n root,
      .tree n root ∈ (h.apply w).hub.observers ↔ .tree n root ∈ w.hub.observers := by
    rcases h.moves_or with hmoves | ⟨files, rfl⟩ | ⟨ds, rfl⟩ | ⟨id, rfl⟩ | rfl | rfl | rfl | rfl
    · exact hw.owned.moves (hmoves w d hw.discovery)
    · exact ⟨hw.owned.of_eq rfl rfl (.refl _), fun _ _ => Iff.rfl⟩
    · have hcleared : w.cleared.Owned ∧ ∀ n root,
          .tree n root ∈ w.cleared.hub.observers ↔ .tree n root ∈ w.hub.observers := by
        have hremarked := hw.owned.moves (noted_remark w .info "Initializing token sources").moves
        rw [cleared]
        split
        · exact hremarked
        · obtain ⟨howned, htrees⟩ := hremarked.1.releaseAll
          exact ⟨howned.of_eq rfl rfl (.refl _), htrees⟩
      obtain ⟨howned, htrees⟩ := hcleared.1.moves (moves_populate w ds)
      exact ⟨howned, fun n root => (htrees n root).trans (hcleared.2 n root)⟩
    · exact hw.owned.removeSource id
    · have hpending : ({ w with pending := w.pending.filter fun t => !Task.isChange t } :
          Workspace).Owned := hw.owned.of_eq rfl rfl (.refl _)
      obtain ⟨howned, htrees⟩ := hpending.releaseAll
      exact ⟨howned.of_eq rfl rfl (.refl _), htrees⟩
    · exact absurd rfl hfollow
    · exact absurd rfl hunfollow
    · exact absurd rfl hdispose
  exact ⟨hw.discovery.apply h, hw.admitted.apply hw.discovery h, hkept.1,
    fun n root => (hkept.2 n root).trans (hw.tree_iff n root)⟩

/-- Once a search has ended, its root is observed if it is a directory. -/
lemma Agrees.follow (hw : w.Agrees d follows) :
    (w.follow 0).2.Agrees d
      (((w.follow 0).1.isOk ∧ w.files.isDirectory d.root = .ok true) ∨ follows) := by
  have hdiscovery := hw.discovery.apply .follow
  have hadmitted := hw.admitted.apply hw.discovery .follow
  obtain ⟨v, hv, heq⟩ := hw.discovery.moves_follow
  obtain ⟨howned, htrees⟩ := hw.owned.moves hv
  have htree := fun n root => (htrees n root).trans (hw.tree_iff n root)
  rw [Happening.apply, heq] at hdiscovery hadmitted
  rw [heq]
  by_cases hok : (w.follow 0).1.isOk
  · obtain ⟨hobserved, hmem⟩ := howned.observeRoot (hw.discovery.moves hv)
      fun n root hmem => ⟨((htree n root).mp hmem).1, ((htree n root).mp hmem).2.1⟩
    rw [if_pos hok] at hdiscovery hadmitted ⊢
    refine ⟨hdiscovery, hadmitted, hobserved, fun n root => ?_⟩
    rw [hmem, htree, Moves.files_eq hv]
    tauto
  · rw [if_neg hok] at hdiscovery hadmitted ⊢
    refine ⟨hdiscovery, hadmitted, howned, fun n root => ?_⟩
    rw [htree]
    tauto

/-- Behind a stop, no tree is observed. -/
lemma Agrees.unfollow (hw : w.Agrees d follows) : (w.unfollow 0).Agrees d False := by
  obtain ⟨howned, hnone⟩ := hw.owned.unfollow fun n root hmem => ((hw.tree_iff n root).mp hmem).1
  exact ⟨hw.discovery.apply .unfollow, hw.admitted.apply hw.discovery .unfollow, howned,
    fun n root => iff_of_false (hnone n root) fun h => h.2.2⟩

/-- Disposing of the discovery ends the following of files. -/
lemma Agrees.disposeDiscovery (hw : w.Agrees d follows) :
    (w.disposeDiscovery 0).Agrees d False := by
  have hdiscovery := hw.discovery.apply .disposeDiscovery
  have hadmitted := hw.admitted.apply hw.discovery .disposeDiscovery
  have hstopped := hw.unfollow
  obtain ⟨found, following, hd⟩ := hw.discovery
  have heq := disposeDiscovery_eq hd
  refine ⟨hdiscovery, hadmitted, ?_, ?_⟩
  · rw [heq]
    exact hstopped.owned.of_eq rfl rfl (.refl _)
  · rw [heq]
    exact hstopped.tree_iff

/-- Whatever happens, the state agrees with what asks for observers. -/
lemma Agrees.apply (hw : w.Agrees d follows) (h : Happening) :
    (h.apply w).Agrees d (h.BeginsFollowing w d.root ∨ (follows ∧ ¬ h.EndsFollowing)) := by
  have hcongr : ∀ {v : Workspace} {p q : Prop}, (p ↔ q) → v.Agrees d p → v.Agrees d q :=
    fun hpq hv => propext hpq ▸ hv
  by_cases hfollow : h = .follow
  · subst hfollow
    have hends : ¬ Happening.EndsFollowing .follow := id
    exact hcongr (or_congr_right (and_iff_left hends).symm) hw.follow
  · by_cases hend : h = .unfollow ∨ h = .disposeDiscovery
    · have hends : h.EndsFollowing := by
        rcases hend with rfl | rfl <;> trivial
      have hbegins : ¬ h.BeginsFollowing w d.root := by
        rcases hend with rfl | rfl <;> exact id
      refine hcongr (iff_of_false id ?_) ?_
      · exact fun hor => hor.elim hbegins fun hand => hand.2 hends
      · rcases hend with rfl | rfl
        · exact hw.unfollow
        · exact hw.disposeDiscovery
    · rw [not_or] at hend
      have hbegins : ¬ h.BeginsFollowing w d.root := by
        cases h <;> first | exact id | exact absurd rfl hfollow
      have hends : ¬ h.EndsFollowing := by
        cases h <;> first | exact id | exact absurd rfl hend.1 | exact absurd rfl hend.2
      refine hcongr ?_ (hw.apply_of_ne hfollow hend.1 hend.2)
      rw [or_iff_right hbegins, and_iff_left hends]

/-- Every state that a run leads to agrees with what asks for observers. -/
lemma Agrees.afterAll (hw : w.Agrees d False) (run : List Happening) :
    (w.afterAll run).Agrees d (w.FollowsAfter d.root run) := by
  induction run using List.reverseRecOn with
  | nil =>
    have hnot := w.not_followsAfter_nil d.root
    rw [propext (iff_of_false hnot id)]
    exact hw
  | append_singleton run h ih =>
    rw [afterAll_concat, propext (w.followsAfter_concat d.root run h)]
    exact ih.apply h

/-- At the start, nothing asks for observers, and none runs. -/
lemma agrees_newWith (files : FileTree) (place : DatasetPlace) (watching : Bool) (d : Discovery) :
    (newWith files place watching d).Agrees d False where
  discovery := hasDiscovery_newWith ..
  admitted := admitted_newWith ..
  owned := by
    refine ⟨List.nodup_nil, (fun ha => nomatch ha), fun n => ?_⟩
    exact iff_of_false List.not_mem_nil fun ⟨_, _, ha, _⟩ => nomatch ha
  tree_iff := fun n root => iff_of_false List.not_mem_nil fun h => h.2.2

/-! ### One observer for everything that asks for one -/

/-- What an observer is on. -/
inductive Aim
  /-- The file of a source, on behalf of its identity. -/
  | file (p : Path) (id : String)
  /-- The tree below a root. -/
  | tree (root : Path)

/-- What an observer is on; an observer of a watch that there is not is on nothing. -/
def aim? (w : Workspace) : Observer → Option Aim
  | .file n => (w.hub.target? n).map fun target => .file target.1 target.2
  | .tree _ root => some (.tree root)

/-- A source asks for its file to be watched: it is a style sheet or a script, and its descriptor
says so. -/
def asksForWatching (s : Source) : Bool :=
  s.descriptor.kind != .builtin && s.descriptor.watch

/-- The files of the attached sources that ask for it, if watching is on. -/
def fileAims (w : Workspace) : List (Option Aim) :=
  (w.sources.entries.filter fun e => w.watching && asksForWatching e.2.source).map fun e =>
    e.2.source.path?.map fun p => .file p e.1

/-- A source that was valid is watched at its file if it asks for it, and not at all otherwise. -/
lemma Admitted.watched?_eq (hw : w.Admitted) (ha : w.sources.get? id = some a) :
    if asksForWatching a.source
      then ∃ p, a.source.path? = some p ∧ a.source.watched? = some p
      else a.source.watched? = none := by
  have hs : w.source? id = some a.source := by rw [source?, ha, Option.map_some]
  obtain ⟨place, files, e, heq, -, hvalid⟩ := hw hs
  rw [heq] at hvalid ⊢
  rw [asksForWatching, Source.descriptor_ofDescriptor, Source.watched?]
  by_cases hkind : e.kind = .builtin
  · simp [hkind, Source.ofDescriptor]
  · obtain ⟨file, hfile⟩ := Source.exists_filePath_of_isValid hkind hvalid
    have hpath : (Source.ofDescriptor place e).path? = some (Path.ofString file) := by
      rw [Source.path?_ofDescriptor, SourceDescriptor.path?, hfile, Option.map_some]
    rw [hpath]
    cases hd : e.kind with
    | builtin => exact absurd hd hkind
    | stylesheet => cases hwatch : e.watch <;> simp [Source.ofDescriptor, hd, hwatch]
    | script => cases hwatch : e.watch <;> simp [Source.ofDescriptor, hd, hwatch]

/-- An observer of a file is on the file of an attached source that asks for it. -/
lemma Agrees.exists_source (hw : w.Agrees d follows) (hn : .file n ∈ w.hub.observers) :
    ∃ id a p, w.sources.get? id = some a ∧ a.watch = some n ∧ w.watching = true ∧
      asksForWatching a.source = true ∧ a.source.path? = some p ∧
      w.aim? (.file n) = some (.file p id) := by
  obtain ⟨id, a, ha, hwatch⟩ := (hw.owned.file_iff n).mp hn
  obtain ⟨p, hon, hp, htarget⟩ := (hw.owned.watched ha).exists_target hwatch
  have hasks := hw.admitted.watched?_eq ha
  split at hasks
  · next hyes =>
    obtain ⟨q, hq, hq'⟩ := hasks
    cases hp.symm.trans hq'
    exact ⟨id, a, p, ha, hwatch, hon, hyes, hq, by rw [aim?, htarget, Option.map_some]⟩
  · cases hp.symm.trans hasks

/-- The file of an attached source that asks for it is observed. -/
lemma Agrees.exists_observer (hw : w.Agrees d follows) (ha : w.sources.get? id = some a)
    (hon : w.watching = true) (hyes : asksForWatching a.source = true) :
    ∃ n p, .file n ∈ w.hub.observers ∧ a.source.path? = some p ∧
      w.aim? (.file n) = some (.file p id) := by
  have hasks := hw.admitted.watched?_eq ha
  rw [if_pos hyes] at hasks
  obtain ⟨p, hp, hp'⟩ := hasks
  obtain ⟨n, hn, htarget⟩ := (hw.owned.watched ha).exists_watch hon hp'
  exact ⟨n, p, (hw.owned.file_iff n).mpr ⟨id, a, ha, hn⟩, hp,
    by rw [aim?, htarget, Option.map_some]⟩

/-- Different observers that run are on different things. -/
lemma Agrees.nodup_aims (hw : w.Agrees d follows) : (w.hub.observers.map w.aim?).Nodup := by
  refine hw.owned.nodup.map_on ?_
  intro o ho o' ho' heq
  cases o with
  | file n =>
    obtain ⟨id, a, p, ha, hn, -, -, -, haim⟩ := hw.exists_source ho
    cases o' with
    | file n' =>
      obtain ⟨id', a', p', ha', hn', -, -, -, haim'⟩ := hw.exists_source ho'
      cases haim.symm.trans (heq.trans haim')
      cases ha.symm.trans ha'
      rw [Option.some.inj (hn.symm.trans hn')]
    | tree n' root => cases haim.symm.trans heq
  | tree n root =>
    cases o' with
    | file n' =>
      obtain ⟨id', a', p', -, -, -, -, -, haim'⟩ := hw.exists_source ho'
      cases heq.trans haim'
    | tree n' root' =>
      obtain ⟨rfl, rfl, -⟩ := (hw.tree_iff n root).mp ho
      obtain ⟨rfl, rfl, -⟩ := (hw.tree_iff n' root').mp ho'
      rfl

/-- What asks for an observer of a file is an attached source. -/
lemma mem_fileAims {x : Option Aim} : x ∈ w.fileAims ↔ ∃ id a, w.sources.get? id = some a ∧
    w.watching = true ∧ asksForWatching a.source = true ∧
    x = a.source.path?.map fun p => .file p id := by
  rw [fileAims, List.mem_map]
  constructor
  · rintro ⟨⟨id, a⟩, he, rfl⟩
    obtain ⟨hmem, hasks⟩ := List.mem_filter.mp he
    rw [Bool.and_eq_true] at hasks
    exact ⟨id, a, OrderedMap.mem_entries_iff.mp hmem, hasks.1, hasks.2, rfl⟩
  · rintro ⟨id, a, ha, hon, hasks, rfl⟩
    refine ⟨(id, a), List.mem_filter.mpr ⟨OrderedMap.mem_entries_iff.mpr ha, ?_⟩, rfl⟩
    rw [Bool.and_eq_true]
    exact ⟨hon, hasks⟩

/-- Different attached sources ask for different observers. -/
lemma Agrees.nodup_fileAims (hw : w.Agrees d follows) : w.fileAims.Nodup := by
  refine (List.Nodup.filter _ (w.sources.nodup_keys.of_map Prod.fst)).map_on ?_
  rintro ⟨id, a⟩ he ⟨id', a'⟩ he' heq
  obtain ⟨hmem, hasks⟩ := List.mem_filter.mp he
  obtain ⟨hmem', -⟩ := List.mem_filter.mp he'
  rw [OrderedMap.mem_entries_iff] at hmem hmem'
  rw [Bool.and_eq_true] at hasks
  obtain ⟨n, p, -, hp, -⟩ := hw.exists_observer hmem hasks.1 hasks.2
  dsimp only at heq
  rw [hp, Option.map_some] at heq
  obtain ⟨p', -, hid⟩ := Option.map_eq_some_iff.mp heq.symm
  cases hid
  cases hmem.symm.trans hmem'
  rfl

open Classical in
/-- Where a state agrees with what asks for observers, those that run are one for each. -/
lemma Agrees.perm (hw : w.Agrees d follows) : (w.hub.observers.map w.aim?).Perm
    (w.fileAims ++ if follows then [some (Aim.tree d.root)] else []) := by
  have hnodup : (w.fileAims ++ if follows then [some (Aim.tree d.root)] else []).Nodup := by
    rw [List.nodup_append]
    refine ⟨hw.nodup_fileAims, by split <;> simp, ?_⟩
    rintro x hx y hy rfl
    obtain ⟨id, a, -, -, -, rfl⟩ := mem_fileAims.mp hx
    split at hy
    · obtain ⟨p, -, hp⟩ := Option.map_eq_some_iff.mp (List.mem_singleton.mp hy)
      cases hp
    · cases hy
  rw [List.perm_ext_iff_of_nodup hw.nodup_aims hnodup]
  intro x
  rw [List.mem_append, List.mem_map, mem_fileAims]
  constructor
  · rintro ⟨o, ho, rfl⟩
    cases o with
    | file n =>
      obtain ⟨id, a, p, ha, -, hon, hasks, hp, haim⟩ := hw.exists_source ho
      exact Or.inl ⟨id, a, ha, hon, hasks, by rw [haim, hp, Option.map_some]⟩
    | tree n root =>
      obtain ⟨rfl, rfl, hfollows⟩ := (hw.tree_iff n root).mp ho
      rw [if_pos hfollows]
      exact Or.inr (List.mem_singleton.mpr rfl)
  · rintro (⟨id, a, ha, hon, hasks, rfl⟩ | hx)
    · obtain ⟨n, p, hn, hp, haim⟩ := hw.exists_observer ha hon hasks
      exact ⟨.file n, hn, by rw [haim, hp, Option.map_some]⟩
    · split at hx
      · next hfollows =>
        obtain rfl := List.mem_singleton.mp hx
        exact ⟨.tree 0 d.root, (hw.tree_iff 0 d.root).mpr ⟨rfl, rfl, hfollows⟩, rfl⟩
      · cases hx

open Classical in
/-- In every state that a run leads to, the observers are one for the file of each attached style
sheet or script whose descriptor asks for it, if watching is on, and one for the tree if the
discovery has begun to follow files since its last end. -/
theorem observers_perm (files : FileTree) (place : DatasetPlace) (watching : Bool) (d : Discovery)
    (run : List Happening) :
    let start := newWith files place watching d
    let w := start.afterAll run
    (w.hub.observers.map w.aim?).Perm
      (w.fileAims ++ if start.FollowsAfter d.root run then [some (.tree d.root)] else []) := by
  intro start w
  exact ((agrees_newWith files place watching d).afterAll run).perm

end Workspace

end DesignTokens
