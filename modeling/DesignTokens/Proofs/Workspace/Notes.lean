import DesignTokens.Workspace.Basic
import Mathlib.Logic.Basic

/-!
# Notes and signals

Whatever a workspace does is noted in its journal, and listeners are told about it.  This changes
nothing else (`Noted`), neither the records nor the sources (`SameStore`).  Watching a file and
giving a source up leave these alone too, and say what they do to the watches (`watch_cases`,
`release_eq`).  Loads of several sources are the loads of each of them, up to what is noted
(`loadAll_spec`).
-/

namespace DesignTokens

/-- What every listener and every note of a failure keeps, firing a signal keeps. -/
lemma Signal.deliver_induction {α σ : Type} {P : σ → Prop} {call : α → σ → Reply × σ}
    {noteFailure : σ → σ} (hcall : ∀ l s, P s → P (call l s).2)
    (hnote : ∀ s, P s → P (noteFailure s)) (ls : List α) {s : σ} (hs : P s) :
    P (Signal.deliver call noteFailure ls s) := by
  induction ls generalizing s with
  | nil => exact hs
  | cons l ls ih =>
    have hstep := hcall l s hs
    rw [Signal.deliver]
    split
    · next s' heq =>
      rw [heq] at hstep
      exact ih hstep
    · next s' heq =>
      rw [heq] at hstep
      exact ih (hnote s' hstep)

namespace Workspace

variable {w w' : Workspace}

/-! ### Notes and signals -/

/-- Two states differ only in the journal. -/
def Remarked (w w' : Workspace) : Prop :=
  ∃ journal, w' = { w with journal }

/-- Two states differ only in the journal and in what listeners were told. -/
def Noted (w w' : Workspace) : Prop :=
  ∃ journal notices, w' = { w with journal, notices }

/-- A state that does not change is only noted. -/
lemma Noted.refl (w : Workspace) : w.Noted w := ⟨_, _, rfl⟩

/-- Notes and signals may come one after another. -/
lemma Noted.trans {w'' : Workspace} (h : w.Noted w') (h' : w'.Noted w'') : w.Noted w'' := by
  obtain ⟨_, _, rfl⟩ := h
  obtain ⟨_, _, rfl⟩ := h'
  exact ⟨_, _, rfl⟩

/-- Notes and signals leave the records alone. -/
lemma Noted.catalogue_eq (h : w.Noted w') : w'.catalogue = w.catalogue := by
  obtain ⟨_, _, rfl⟩ := h
  rfl

/-- Entries in the journal may come one after another. -/
lemma Remarked.trans {w'' : Workspace} (h : w.Remarked w') (h' : w'.Remarked w'') :
    w.Remarked w'' := by
  obtain ⟨_, rfl⟩ := h
  obtain ⟨_, rfl⟩ := h'
  exact ⟨_, rfl⟩

/-- An entry in the journal is one of the things that are only noted. -/
lemma Remarked.noted (h : w.Remarked w') : w.Noted w' := by
  obtain ⟨_, rfl⟩ := h
  exact ⟨_, _, rfl⟩

/-- Entries in the journal leave the sources alone. -/
lemma Remarked.sources_eq (h : w.Remarked w') : w'.sources = w.sources := by
  obtain ⟨_, rfl⟩ := h
  rfl

/-- An entry in the journal is only noted. -/
lemma noted_note (e : LogEntry) (w : Workspace) : w.Noted (w.note e) := ⟨_, _, rfl⟩

/-- A remark in the journal is only noted. -/
lemma noted_remark (w : Workspace) (level : Level) (message : String) :
    w.Noted (w.remark level message) := ⟨_, _, rfl⟩

/-- Telling the listeners about tokens is only noted. -/
lemma noted_fireTokens (w : Workspace) : w.Noted w.fireTokens := by
  unfold fireTokens Signal.fire
  apply Signal.deliver_induction _ _ _ (Noted.refl w)
  · exact fun _ _ h => h.trans ⟨_, _, rfl⟩
  · exact fun w' h => h.trans (noted_note _ w')

/-- Telling the listeners about sources is only noted. -/
lemma noted_fireSources (w : Workspace) : w.Noted w.fireSources := by
  unfold fireSources Signal.fire
  apply Signal.deliver_induction _ _ _ (Noted.refl w)
  · exact fun _ _ h => h.trans ⟨_, _, rfl⟩
  · exact fun w' h => h.trans (noted_note _ w')

/-! ### What leaves the records and the sources alone -/

/-- Two states have the same records and the same sources. -/
structure SameStore (w w' : Workspace) : Prop where
  catalogue_eq : w'.catalogue = w.catalogue
  sources_eq : w'.sources = w.sources

/-- A state has the same records and sources as itself. -/
lemma SameStore.refl (w : Workspace) : SameStore w w := ⟨rfl, rfl⟩

/-- Having the same records and sources is transitive. -/
lemma SameStore.trans {w'' : Workspace} (h : SameStore w w') (h' : SameStore w' w'') :
    SameStore w w'' :=
  ⟨h'.catalogue_eq.trans h.catalogue_eq, h'.sources_eq.trans h.sources_eq⟩

/-- Notes and signals leave the records and the sources alone. -/
lemma Noted.sameStore (h : w.Noted w') : SameStore w w' := by
  obtain ⟨_, _, rfl⟩ := h
  exact ⟨rfl, rfl⟩

/-! ### Watches -/

/-- A source that joins is watched by a new observer, or needs none. -/
lemma watch_cases (w : Workspace) (s : Source) :
    ((if w.watching then s.watched? else none) = none ∧ w.watch s = (none, w)) ∨
      ∃ p, (if w.watching then s.watched? else none) = some p ∧
        w.watch s = (some w.hub.watches.length,
          { w with hub := (w.hub.addWatch p s.id).start w.hub.watches.length }.note
            (Hub.startEntry p)) := by
  rw [watch]
  cases w.watching with
  | false => exact Or.inl ⟨rfl, rfl⟩
  | true =>
    cases s.watched? with
    | none => exact Or.inl ⟨rfl, rfl⟩
    | some p => exact Or.inr ⟨p, rfl, rfl⟩

/-- Watching the file of a source leaves the records and the sources alone. -/
lemma sameStore_watch (w : Workspace) (s : Source) : SameStore w (w.watch s).2 := by
  rcases w.watch_cases s with ⟨-, heq⟩ | ⟨p, -, heq⟩
  · rw [heq]
    exact SameStore.refl w
  · rw [heq]
    exact ⟨rfl, rfl⟩

/-- Giving up a source stops its watch, if it has one, and changes nothing else but the journal. -/
lemma release_eq (w : Workspace) (a : Attachment) :
    ∃ journal, w.release a = { w with
      journal
      hub := match a.watch, a.source.watched? with
        | some n, some _ => w.hub.stop n
        | _, _ => w.hub } := by
  rw [release]
  cases a.watch with
  | none => exact ⟨_, rfl⟩
  | some n =>
    cases a.source.watched? with
    | none => exact ⟨_, rfl⟩
    | some p =>
      dsimp only
      split <;> exact ⟨_, rfl⟩

/-- Giving up a source leaves the records and the other sources alone. -/
lemma sameStore_release (w : Workspace) (a : Attachment) : SameStore w (w.release a) := by
  obtain ⟨_, heq⟩ := w.release_eq a
  rw [heq]
  exact ⟨rfl, rfl⟩

/-- Releasing all sources leaves the records alone. -/
lemma catalogue_releaseAll (w : Workspace) : w.releaseAll.catalogue = w.catalogue := by
  have hfold : ∀ (as : List Attachment) (w : Workspace), SameStore w (as.foldl release w) := by
    intro as
    induction as with
    | nil => exact SameStore.refl
    | cons a as ih => exact fun w => (sameStore_release w a).trans (ih _)
  exact (hfold w.sources.values w).catalogue_eq

/-! ### Loads, up to what is noted -/

/-- Behind the load, loading an added source does no more than note. -/
lemma noted_loadAdded (w : Workspace) (id : String) :
    (w.loadSource id).2.Noted (w.loadAdded id) := by
  unfold loadAdded
  dsimp only
  split
  · exact noted_fireTokens _
  · exact Noted.refl _

/-- Loading the enabled sources is loading each of them, up to what is noted. -/
lemma loadEnabled_spec (w : Workspace) :
    w.loadEnabled.1 = (loadEach w.enabledIds w).1 ∧
      (loadEach w.enabledIds w).2.Noted w.loadEnabled.2 := by
  unfold loadEnabled
  dsimp only
  split
  · exact ⟨rfl, Noted.refl _⟩
  · exact ⟨rfl, noted_remark _ _ _⟩

/-- Loading all sources is loading each of the enabled ones, up to what is noted. -/
lemma loadAll_spec (w : Workspace) :
    w.loadAll.1 = (loadEach w.enabledIds w).1 ∧
      (loadEach w.enabledIds w).2.Noted w.loadAll.2 := by
  obtain ⟨hresults, hnoted⟩ := loadEnabled_spec w
  exact ⟨hresults, hnoted.trans (noted_fireTokens _)⟩

end Workspace

end DesignTokens
