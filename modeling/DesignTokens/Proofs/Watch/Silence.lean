import DesignTokens.Proofs.History
import DesignTokens.Proofs.Watch.Hub
import Mathlib.Data.List.Nodup

/-!
# A stopped watch is silent

Watches are started and stopped, their observers are told about events, and timers fire: live ones,
and also ones that were stopped or have fired before.  A watch that is stopped cannot take back the
timers that it no longer remembers, but what they would deliver is gone: as long as it is stopped
its debouncer is idle, and an idle debouncer stays so whatever fires.

So a call of what is to be done on a change has its reason among the steps behind the last one that
stopped the watch, an event that concerned its file and reached its running observer (`Stirred`).
The watch itself does what the steps say, whatever is done to other watches (`Accords`).
-/

namespace DesignTokens

open History

namespace Hub

variable {κ : Type} {h h' : Hub κ} {m n : ℕ}

/-- Something that is done to watches. -/
inductive Step
  /-- A watch is started. -/
  | start (watch : ℕ)
  /-- A watch is stopped. -/
  | stop (watch : ℕ)
  /-- An event reaches the observer of a watch, which looks at it from a working directory. -/
  | tell (place : List Text) (watch : ℕ) (e : FileEvent)
  /-- A timer fires, live or not. -/
  | fire (timer : ℕ)

/-- Does a step stop a watch? -/
def Step.stops (watch : ℕ) : Step → Bool
  | .stop n => n == watch
  | .start _ | .tell .. | .fire _ => false

/-- The hub behind a step.  Only observers that run pass events on, and one that cannot find the
file does nothing. -/
def step (h : Hub κ) : Step → Hub κ
  | .start n => h.start n
  | .stop n => h.stop n
  | .tell place n e => if h.isWatching n then (h.touch place n e).toOption.getD h else h
  | .fire timer => (h.expire timer).2

/-- Watches on files on behalf of their subjects, none of them started. -/
def ofTargets (targets : List (Path × κ)) : Hub κ :=
  targets.foldl (fun h target => h.addWatch target.1 target.2) empty

/-- The hub behind steps that are done one after another. -/
def after (targets : List (Path × κ)) (steps : List Step) : Hub κ :=
  steps.foldl step (ofTargets targets)

/-- A timer that fires now is one of a watch, and hands over a subject. -/
def Calls (h : Hub κ) (timer n : ℕ) (subject : κ) : Prop :=
  h.timers.owner? timer = some n ∧ (h.expire timer).1 = some subject

/-- A watch has been started since it was stopped last. -/
def Started (n : ℕ) (steps : List Step) : Prop :=
  .start n ∈ sinceLast (Step.stops n) steps

/-- Since a watch was stopped last, its running observer has been told about an event that concerns
its file. -/
def Stirred (targets : List (Path × κ)) (n : Fin targets.length) (steps : List Step) : Prop :=
  ∃ earlier place e later, steps = earlier ++ .tell place n e :: later ∧ .stop n ∉ later ∧
    (after targets earlier).isWatching n = true ∧ e.concerns place targets[n].1 = .ok true

/-! ### Watches, by themselves -/

/-- A watch is watching if its observer runs. -/
lemma isWatching_iff : h.isWatching n = true ↔ .file n ∈ h.observers :=
  List.contains_iff_mem

/-- Starting a watch that is watching does nothing. -/
lemma start_of_isWatching (hn : h.isWatching n = true) : h.start n = h :=
  if_pos hn

/-- Starting any other watch adds its observer. -/
lemma start_of_not_isWatching (hn : ¬ h.isWatching n = true) :
    h.start n = { h with observers := h.observers ++ [.file n] } :=
  if_neg hn

/-- Starting a watch changes no target. -/
lemma target?_start : (h.start m).target? n = h.target? n := by
  obtain ⟨observers, heq, -⟩ := h.start_eq m
  rw [heq]
  rfl

/-- Starting a watch changes no debouncer. -/
lemma debouncer_start : (h.start m).debouncer n = h.debouncer n := by
  obtain ⟨observers, heq, -⟩ := h.start_eq m
  rw [heq]
  rfl

/-- A target is that of a watch. -/
lemma exists_watch {target : Path × κ} (ht : h.target? n = some target) :
    ∃ w, h.watches[n]? = some w ∧ (w.path, w.subject) = target :=
  Option.map_eq_some_iff.mp ht

/-- Giving a watch the debouncer that it has changes nothing. -/
lemma setDebouncer_debouncer : h.setDebouncer n (h.debouncer n) = h := by
  have hwatches :
      h.watches.modify n (fun w => { w with debouncer := h.debouncer n }) = h.watches := by
    refine List.ext_getElem? fun k => ?_
    rw [List.getElem?_modify]
    by_cases hnk : n = k
    · subst hnk
      rw [debouncer]
      cases h.watches[n]? <;> simp
    · cases h.watches[k]? <;> simp [hnk]
  rw [setDebouncer, hwatches]

/-- Stopping a watch that does not run changes nothing if its debouncer is idle. -/
lemma stop_of_idle (hn : ¬ h.isWatching n = true) (hidle : h.debouncer n = .idle) :
    h.stop n = h := by
  cases hw : h.watches[n]? with
  | none => exact stop_of_none hw
  | some w =>
    have hsame : h.setDebouncer n .idle = h := hidle ▸ setDebouncer_debouncer
    rw [stop_of_some hw, hsame, hidle, List.erase_of_not_mem (mt isWatching_iff.mpr hn)]
    rfl

/-- A timer hands the subject of its watch over, which then has gathered something. -/
lemma Calls.gathered_ne_nil {timer : ℕ} {subject : κ} (hcalls : h.Calls timer n subject) :
    (∃ p, h.target? n = some (p, subject)) ∧ h.gathered n ≠ [] := by
  obtain ⟨howner, hsome⟩ := hcalls
  rcases expire_cases h timer with ⟨hnone, -⟩ | ⟨m, hm, ⟨-, heq⟩ | ⟨w, hw, heq⟩⟩
  · cases hnone.symm.trans howner
  · rw [heq] at hsome
    cases hsome
  · cases hm.symm.trans howner
    rw [heq] at hsome
    split at hsome
    · cases hsome
    · next hne =>
      cases hsome
      refine ⟨⟨w.path, ?_⟩, hne⟩
      rw [target?, hw]
      rfl

/-- A timer that fires leaves a debouncer as it is, or makes it idle. -/
lemma debouncer_expire (h : Hub κ) (timer n : ℕ) :
    (h.expire timer).2.debouncer n = h.debouncer n ∨ (h.expire timer).2.debouncer n = .idle := by
  rcases expire_cases h timer with ⟨-, heq⟩ | ⟨m, -, ⟨-, heq⟩ | ⟨w, hw, heq⟩⟩
  · rw [heq]
    exact Or.inl rfl
  · rw [heq]
    exact Or.inl rfl
  · rw [heq]
    by_cases hnm : n = m
    · subst hnm
      have hself : (h.setDebouncer n (h.debouncer n).elapse.2).debouncer n
          = (h.debouncer n).elapse.2 := debouncer_setDebouncer_self hw
      refine (em ((h.debouncer n).pending = [])).imp (fun hnone => ?_) fun hsome => ?_
      · exact hself.trans (by rw [Debouncer.elapse, if_pos hnone])
      · exact hself.trans (by rw [Debouncer.elapse, if_neg hsome])
    · exact Or.inl (debouncer_setDebouncer_of_ne hnm)

/-! ### The watches at the start -/

section Steps

variable {targets : List (Path × κ)} {steps : List Step} {what : Step}

/-- The watches on some targets stand in their order, idle and without observers. -/
lemma ofTargets_eq (targets : List (Path × κ)) :
    ofTargets targets = ⟨.none, targets.map fun t => ⟨t.1, t.2, .idle⟩, []⟩ := by
  induction targets using List.reverseRecOn with
  | nil => rfl
  | append_singleton targets t ih =>
    rw [ofTargets, List.foldl_concat, ← ofTargets, ih, addWatch, List.map_append]
    rfl

/-- The last step is done last. -/
lemma after_concat (targets : List (Path × κ)) (steps : List Step) (what : Step) :
    after targets (steps ++ [what]) = (after targets steps).step what :=
  List.foldl_concat ..

/-! ### What the steps say -/

/-- A watch that has just been started is started. -/
lemma started_start : Started n (steps ++ [.start n]) := by
  rw [Started, sinceLast_concat, if_neg (by simp [Step.stops])]
  exact List.mem_append_right _ (List.mem_singleton_self _)

/-- A watch that has just been stopped is not started. -/
lemma not_started_stop : ¬ Started n (steps ++ [.stop n]) := by
  rw [Started, sinceLast_concat, if_pos (by simp [Step.stops])]
  exact List.not_mem_nil

/-- Other steps make no difference. -/
lemma started_concat_iff (hstart : what ≠ .start n) (hstop : what ≠ .stop n) :
    Started n (steps ++ [what]) ↔ Started n steps := by
  have hstops : ¬ what.stops n = true := by
    cases what with
    | stop m => simpa [Step.stops] using hstop
    | start m => exact Bool.false_ne_true
    | tell place m e => exact Bool.false_ne_true
    | fire timer => exact Bool.false_ne_true
  rw [Started, sinceLast_concat, if_neg hstops, List.mem_append, List.mem_singleton,
    or_iff_left hstart.symm, Started]

/-- A watch is not started while it is only stopped. -/
lemma not_started_of_not_mem {before quiet : List Step} (hquiet : .start n ∉ quiet) :
    ¬ Started n (before ++ .stop n :: quiet) := by
  induction quiet using List.reverseRecOn with
  | nil => exact not_started_stop
  | append_singleton quiet what ih =>
    rw [List.mem_append, List.mem_singleton, not_or] at hquiet
    rw [← List.cons_append, ← List.append_assoc]
    by_cases hstop : what = .stop n
    · rw [hstop]
      exact not_started_stop
    · rw [started_concat_iff (Ne.symm hquiet.2) hstop]
      exact ih hquiet.1

variable {i : Fin targets.length}

/-- A watch stays stirred behind every step that does not stop it. -/
lemma Stirred.concat (hs : Stirred targets i steps) (hwhat : what ≠ .stop i) :
    Stirred targets i (steps ++ [what]) := by
  obtain ⟨earlier, place, e, later, rfl, hstop, hruns, hconcerns⟩ := hs
  refine ⟨earlier, place, e, later ++ [what], by simp, ?_, hruns, hconcerns⟩
  rw [List.mem_append, List.mem_singleton, not_or]
  exact ⟨hstop, hwhat.symm⟩

/-- A watch accords with the steps that were done: it keeps its target, has one observer exactly if
it was started since it was stopped last, is idle without an observer, and has a reason for what it
has gathered. -/
structure Accords (targets : List (Path × κ)) (i : Fin targets.length) (steps : List Step)
    (h : Hub κ) : Prop where
  /-- The target is the one that the watch was added for. -/
  target : h.target? i = some targets[i]
  /-- No observer runs twice. -/
  nodup : h.observers.Nodup
  /-- The watch runs if it was started behind the last stop. -/
  running_iff : h.isWatching i = true ↔ Started i steps
  /-- A watch that does not run has nothing in its debouncer. -/
  idle : ¬ h.isWatching i = true → h.debouncer i = .idle
  /-- Something is gathered for a reason. -/
  stirred : h.gathered i ≠ [] → Stirred targets i steps

/-- Before any step a watch is in accord. -/
lemma accords_ofTargets (targets : List (Path × κ)) (i : Fin targets.length) :
    Accords targets i [] (ofTargets targets) := by
  have hidle : (ofTargets targets).debouncer i = .idle := by
    rw [ofTargets_eq, debouncer]
    simp
  refine ⟨?_, ?_, ?_, fun _ => hidle, fun hne => absurd (congrArg Debouncer.pending hidle) hne⟩
  · rw [ofTargets_eq, target?]
    simp
  · rw [ofTargets_eq]
    exact List.nodup_nil
  · rw [ofTargets_eq]
    exact iff_of_false Bool.false_ne_true List.not_mem_nil

/-- A step accords if it neither starts nor stops the watch, and leaves its target, its observer and
its debouncer as they are, or makes the debouncer idle. -/
lemma Accords.keep (ha : Accords targets i steps h) (htarget : h'.target? i = h.target? i)
    (hnodup : h'.observers.Nodup) (hruns : h'.isWatching i = true ↔ h.isWatching i = true)
    (hdebouncer : h'.debouncer i = h.debouncer i ∨ h'.debouncer i = .idle)
    (hstart : what ≠ .start i) (hstop : what ≠ .stop i) :
    Accords targets i (steps ++ [what]) h' where
  target := htarget.trans ha.target
  nodup := hnodup
  running_iff := by rw [hruns, ha.running_iff, started_concat_iff hstart hstop]
  idle := fun hnot => hdebouncer.elim (fun hsame => hsame.trans (ha.idle (mt hruns.mpr hnot))) id
  stirred := by
    intro hne
    refine (ha.stirred fun hnone => hne ?_).concat hstop
    rcases hdebouncer with hsame | hidle
    · exact (congrArg Debouncer.pending hsame).trans hnone
    · exact congrArg Debouncer.pending hidle

/-- Starting any watch keeps it in accord. -/
lemma Accords.start (ha : Accords targets i steps h) (m : ℕ) :
    Accords targets i (steps ++ [.start m]) (h.start m) := by
  have hnodup : (h.start m).observers.Nodup := by
    by_cases hruns : h.isWatching m = true
    · rw [start_of_isWatching hruns]
      exact ha.nodup
    · rw [start_of_not_isWatching hruns, ← List.concat_eq_append]
      exact List.Nodup.concat (mt isWatching_iff.mpr hruns) ha.nodup
  obtain ⟨observers, heq, hnow, hkept⟩ := h.start_eq m
  by_cases him : m = i
  · subst him
    have hruns : (h.start i).isWatching i = true := isWatching_iff.mpr (heq ▸ hnow)
    refine ⟨target?_start.trans ha.target, hnodup, iff_of_true hruns started_start,
      fun hnot => absurd hruns hnot, fun hne => (ha.stirred ?_).concat nofun⟩
    exact (congrArg Debouncer.pending debouncer_start).symm.trans_ne hne
  · refine ha.keep target?_start hnodup ?_ (Or.inl debouncer_start)
      (fun heq => him (Step.start.inj heq)) nofun
    by_cases hruns : h.isWatching m = true
    · rw [start_of_isWatching hruns]
    · rw [start_of_not_isWatching hruns, isWatching_iff, isWatching_iff, List.mem_append,
        List.mem_singleton, Observer.file.injEq, or_iff_left (Ne.symm him)]

/-- Stopping any watch keeps it in accord. -/
lemma Accords.stop (ha : Accords targets i steps h) (m : ℕ) :
    Accords targets i (steps ++ [.stop m]) (h.stop m) := by
  by_cases him : m = i
  · subst him
    obtain ⟨w, hw, -⟩ := exists_watch ha.target
    have hidle : (h.stop i).debouncer i = .idle := by
      rw [stop_of_some hw]
      exact debouncer_setDebouncer_self hw
    have hnot : ¬ (h.stop i).isWatching i = true := by
      rw [stop_of_some hw, isWatching_iff]
      exact ha.nodup.not_mem_erase
    refine ⟨target?_stop.trans ha.target, ?_, iff_of_false hnot not_started_stop, fun _ => hidle,
      fun hne => absurd (congrArg Debouncer.pending hidle) hne⟩
    rw [stop_of_some hw]
    exact ha.nodup.erase _
  · cases hw : h.watches[m]? with
    | none =>
      rw [stop_of_none hw]
      exact ha.keep rfl ha.nodup Iff.rfl (Or.inl rfl) nofun fun heq => him (Step.stop.inj heq)
    | some w =>
      rw [stop_of_some hw]
      refine ha.keep target?_setDebouncer (ha.nodup.erase _) ?_
        (Or.inl (debouncer_setDebouncer_of_ne (Ne.symm him))) nofun
        fun heq => him (Step.stop.inj heq)
      rw [isWatching_iff, isWatching_iff]
      exact List.mem_erase_of_ne fun heq => him (Observer.file.inj heq).symm

/-- Telling any observer about an event keeps it in accord. -/
lemma Accords.tell (ha : Accords targets i steps (after targets steps)) (place : List Text)
    (m : ℕ) (e : FileEvent) :
    Accords targets i (steps ++ [.tell place m e])
      ((after targets steps).step (.tell place m e)) := by
  have hsame : Accords targets i (steps ++ [.tell place m e]) (after targets steps) :=
    ha.keep rfl ha.nodup Iff.rfl (Or.inl rfl) nofun nofun
  rw [step]
  split
  · next hruns =>
    cases htouch : (after targets steps).touch place m e with
    | error why => exact hsame
    | ok h' =>
      change Accords targets i (steps ++ [.tell place m e]) h'
      rcases touch_cases htouch with ⟨rfl, -⟩ | ⟨w, hw, hconcerns, rfl⟩
      · exact hsame
      · by_cases him : m = i
        · -- Only here something is gathered, and the event itself is the reason.
          subst him
          have hpath : w.path = targets[i].1 := by
            obtain ⟨w', hw', htarget⟩ := exists_watch ha.target
            cases hw.symm.trans hw'
            exact congrArg Prod.fst htarget
          refine ⟨target?_setDebouncer.trans ha.target, ha.nodup, hsame.running_iff,
            fun hnot => absurd hruns hnot, fun _ => ?_⟩
          exact ⟨steps, place, e, [], rfl, List.not_mem_nil, hruns, hpath ▸ hconcerns⟩
        · exact ha.keep target?_setDebouncer ha.nodup Iff.rfl
            (Or.inl (debouncer_setDebouncer_of_ne (Ne.symm him))) nofun nofun
  · exact hsame

/-- A timer that fires keeps it in accord. -/
lemma Accords.fire (ha : Accords targets i steps h) (timer : ℕ) :
    Accords targets i (steps ++ [.fire timer]) (h.expire timer).2 := by
  refine ha.keep (target?_expire timer) ?_ ?_ (debouncer_expire h timer i) nofun nofun
  · rw [observers_expire]
    exact ha.nodup
  · rw [isWatching, observers_expire, isWatching]

/-- Every watch accords with all steps. -/
lemma accords_after (targets : List (Path × κ)) (i : Fin targets.length) (steps : List Step) :
    Accords targets i steps (after targets steps) := by
  induction steps using List.reverseRecOn with
  | nil => exact accords_ofTargets targets i
  | append_singleton steps what ih =>
    rw [after_concat]
    cases what with
    | start m => exact ih.start m
    | stop m => exact ih.stop m
    | tell place m e => exact ih.tell place m e
    | fire timer => exact ih.fire timer

end Steps

/-- Whatever is done to some watches, a timer calls for one of them only if an event that concerns
its file was told to its running observer since it was stopped last, and then it hands over the
subject of the watch; behind a stop nothing is called, whichever timer fires, until the watch is
started.  A watch runs if it was started since it was stopped last, with a single observer; starting
a watch that runs changes nothing, nor does stopping one that does not. -/
theorem silent_once_stopped (targets : List (Path × κ)) (steps : List Step)
    (i : Fin targets.length) :
    let h := after targets steps
    (∀ timer subject, h.Calls timer i subject →
        subject = targets[i].2 ∧ Stirred targets i steps) ∧
      (∀ before quiet, steps = before ++ .stop i :: quiet → .start ↑i ∉ quiet →
        ∀ timer subject, ¬ h.Calls timer i subject) ∧
      (h.isWatching i = true ↔ Started i steps) ∧ h.observers.count (.file i) ≤ 1 ∧
      (h.isWatching i = true → h.start i = h) ∧ (¬ h.isWatching i = true → h.stop i = h) := by
  intro h
  have ha : Accords targets i steps h := accords_after targets i steps
  refine ⟨?_, ?_, ha.running_iff, List.nodup_iff_count_le_one.mp ha.nodup _, start_of_isWatching,
    fun hnot => stop_of_idle hnot (ha.idle hnot)⟩
  · intro timer subject hcalls
    obtain ⟨⟨p, htarget⟩, hne⟩ := hcalls.gathered_ne_nil
    refine ⟨?_, ha.stirred hne⟩
    rw [← Option.some.inj (htarget.symm.trans ha.target)]
  · rintro before quiet rfl hquiet timer subject hcalls
    have hnot : ¬ h.isWatching i = true :=
      mt ha.running_iff.mp (not_started_of_not_mem hquiet)
    exact hcalls.gathered_ne_nil.2 (congrArg Debouncer.pending (ha.idle hnot))

/-- A watch that is started again has a timer that calls, beside one from before the stop. -/
example :
    let p : Path := .ofText ['a']
    let change : Step := .tell [] 0 ⟨.modified, p, none, false⟩
    let h := after [(p, "a")] [.start 0, change, .stop 0, .start 0, change]
    h.timers.live = [1] ∧ h.Calls 0 0 "a" ∧ h.Calls 1 0 "a" :=
  ⟨rfl, ⟨rfl, rfl⟩, rfl, rfl⟩

end Hub

end DesignTokens
