import DesignTokens.Watch.Hub
import Mathlib.Data.List.Basic

/-!
# What has been gathered is delivered

A watch that has gathered something has a live timer (`IsTimed`), whatever was started, stopped or
fired before.  So nothing that was gathered is left once no timer is live
(`IsTimed.gathered_eq_nil`).  Until then it stays gathered, unless its own watch is stopped, or a
timer fires and hands the subject of the watch over (`gathered_expire`).
-/

namespace DesignTokens

/-! ### Timers -/

namespace Timers

variable {ω : Type} {ts : Timers ω} {owner other : ω} {m n : Nat}

/-- The timer with a number is live and has the given owner. -/
def IsLive (ts : Timers ω) (n : Nat) (owner : ω) : Prop :=
  ts.started[n]? = some ⟨owner, true⟩

/-- A timer is listed as live if it is live for some owner. -/
lemma mem_live_iff : n ∈ ts.live ↔ ∃ owner, ts.IsLive n owner := by
  rw [live, List.mem_filterMap]
  constructor
  · rintro ⟨⟨⟨owner, live⟩, k⟩, hmem, hk⟩
    cases live with
    | false => cases hk
    | true =>
      cases hk
      exact ⟨owner, List.mem_zipIdx_iff_getElem?.mp hmem⟩
  · rintro ⟨owner, h⟩
    exact ⟨(⟨owner, true⟩, n), List.mem_zipIdx_iff_getElem?.mpr h, rfl⟩

/-- A live timer has the owner for which it is live. -/
lemma IsLive.owner_eq (h : ts.IsLive n owner) : ts.owner? n = some owner := by
  rw [owner?, h]
  rfl

/-- Only timers that were started have an owner. -/
lemma lt_of_owner (h : ts.owner? n = some owner) : n < ts.started.length := by
  obtain ⟨t, ht, -⟩ := Option.map_eq_some_iff.mp h
  exact (List.getElem?_eq_some_iff.mp ht).1

/-- Starting a timer takes the next number. -/
@[simp] lemma next_start (ts : Timers ω) (owner : ω) : (ts.start owner).next = ts.next + 1 := by
  rw [next, Timers.start, List.length_append, List.length_singleton, next]

/-- Stopping a timer takes no number. -/
@[simp] lemma next_stop (ts : Timers ω) (m : Nat) : (ts.stop m).next = ts.next := by
  rw [next, Timers.stop, List.length_modify, next]

/-- A live timer was started. -/
lemma IsLive.lt (h : ts.IsLive n owner) : n < ts.next :=
  lt_of_owner h.owner_eq

/-- Besides the timer that is started, the same timers are live. -/
lemma isLive_start_iff :
    (ts.start other).IsLive n owner ↔ ts.IsLive n owner ∨ n = ts.next ∧ other = owner := by
  rw [IsLive, Timers.start, List.getElem?_append]
  split
  · next hlt => exact ⟨Or.inl, fun h => h.resolve_right fun heq => Nat.ne_of_lt hlt heq.1⟩
  · next hle =>
    have hold : ¬ ts.IsLive n owner := fun h => hle h.lt
    have hplace : n - ts.started.length = 0 ↔ n = ts.next := by
      rw [next]
      omega
    rw [List.getElem?_singleton]
    simp [hold, hplace]

/-- A timer that is started is live. -/
lemma isLive_start : (ts.start owner).IsLive ts.next owner :=
  isLive_start_iff.mpr (Or.inr ⟨rfl, rfl⟩)

/-- A live timer stays live when another one is started. -/
lemma IsLive.start (h : ts.IsLive n owner) (other : ω) : (ts.start other).IsLive n owner :=
  isLive_start_iff.mpr (Or.inl h)

/-- A timer keeps its owner when another one is started. -/
lemma owner?_start (h : ts.owner? n = some owner) (other : ω) :
    (ts.start other).owner? n = some owner := by
  rw [owner?, Timers.start, List.getElem?_append_left (lt_of_owner h)]
  exact h

/-- A timer keeps its owner when one is stopped. -/
@[simp] lemma owner?_stop (ts : Timers ω) (m n : Nat) : (ts.stop m).owner? n = ts.owner? n := by
  rw [owner?, owner?, stop, List.getElem?_modify]
  by_cases hmn : m = n
  · cases ts.started[n]? <;> simp [hmn]
  · cases ts.started[n]? <;> simp [hmn]

/-- Besides the timer that is stopped, the same timers are live. -/
lemma isLive_stop_iff : (ts.stop m).IsLive n owner ↔ m ≠ n ∧ ts.IsLive n owner := by
  rw [IsLive, Timers.stop, List.getElem?_modify, IsLive]
  by_cases hmn : m = n
  · cases ts.started[n]? <;> simp [hmn]
  · cases ts.started[n]? <;> simp [hmn]

/-- Stopping a timer leaves the others live. -/
lemma IsLive.stop (h : ts.IsLive n owner) (hmn : m ≠ n) : (ts.stop m).IsLive n owner :=
  isLive_stop_iff.mpr ⟨hmn, h⟩

end Timers

/-! ### Watches -/

namespace Hub

variable {κ : Type} {h h' : Hub κ} {d : Debouncer} {m n : Nat} {ts : Timers Nat}

/-- The file and the subject of a watch. -/
def target? (h : Hub κ) (n : Nat) : Option (Path × κ) :=
  h.watches[n]?.map fun w => (w.path, w.subject)

/-- The debouncer of a watch. -/
def debouncer (h : Hub κ) (n : Nat) : Debouncer :=
  (h.watches[n]?.map FileWatch.debouncer).getD .idle

/-- What a watch has gathered. -/
def gathered (h : Hub κ) (n : Nat) : List Path :=
  (h.debouncer n).pending

/-- A debouncer remembers only timers of its own watch, and a watch that has gathered something has
a live timer. -/
structure IsTimed (h : Hub κ) : Prop where
  /-- A remembered timer is one of the watch. -/
  owner : ∀ {n t}, (h.debouncer n).timer = some t → h.timers.owner? t = some n
  /-- What was gathered has a live timer. -/
  live : ∀ {n}, h.gathered n ≠ [] → ∃ t, h.timers.IsLive t n

/-- Without watches nothing was gathered. -/
lemma isTimed_empty : (empty : Hub κ).IsTimed where
  owner := by
    intro n t ht
    cases ht
  live := fun hne => absurd rfl hne

/-- Once no timer is live, nothing is left of what was gathered. -/
lemma IsTimed.gathered_eq_nil (hh : h.IsTimed) (hlive : h.timers.live = []) (n : Nat) :
    h.gathered n = [] := by
  by_contra hne
  obtain ⟨t, ht⟩ := hh.live hne
  have hmem := Timers.mem_live_iff.mpr ⟨n, ht⟩
  rw [hlive] at hmem
  cases hmem

/-! ### Replacing a debouncer -/

/-- Setting a debouncer changes no target. -/
lemma target?_setDebouncer : (h.setDebouncer n d).target? m = h.target? m := by
  rw [target?, target?, setDebouncer, List.getElem?_modify]
  by_cases hnm : n = m
  · cases h.watches[m]? <;> simp [hnm]
  · cases h.watches[m]? <;> simp [hnm]

/-- Setting the debouncer of a watch leaves those of the others alone. -/
lemma debouncer_setDebouncer_of_ne (hmn : m ≠ n) :
    (h.setDebouncer n d).debouncer m = h.debouncer m := by
  rw [debouncer, debouncer, setDebouncer, List.getElem?_modify]
  cases h.watches[m]? <;> simp [hmn.symm]

/-- A watch has the debouncer that is set for it. -/
lemma debouncer_setDebouncer_self {w : FileWatch κ} (hw : h.watches[n]? = some w) :
    (h.setDebouncer n d).debouncer n = d := by
  rw [debouncer, setDebouncer, List.getElem?_modify, hw]
  simp

/-- A watch gets another debouncer and may start and stop timers of its own, as long as a live one
is left for what it has gathered. -/
lemma IsTimed.replace (hh : h.IsTimed) {w : FileWatch κ} (hw : h.watches[n]? = some w)
    (howner : ∀ t o, h.timers.owner? t = some o → ts.owner? t = some o)
    (hothers : ∀ t m, m ≠ n → h.timers.IsLive t m → ts.IsLive t m)
    (htimer : ∀ t, d.timer = some t → ts.owner? t = some n)
    (hlive : d.pending ≠ [] → ∃ t, ts.IsLive t n) :
    ({ h.setDebouncer n d with timers := ts } : Hub κ).IsTimed where
  owner := by
    intro m t ht
    have ht' : ((h.setDebouncer n d).debouncer m).timer = some t := ht
    by_cases hmn : m = n
    · rw [hmn, debouncer_setDebouncer_self hw] at ht'
      exact hmn ▸ htimer t ht'
    · rw [debouncer_setDebouncer_of_ne hmn] at ht'
      exact howner t m (hh.owner ht')
  live := by
    intro m hne
    have hne' : ((h.setDebouncer n d).debouncer m).pending ≠ [] := hne
    by_cases hmn : m = n
    · rw [hmn, debouncer_setDebouncer_self hw] at hne'
      exact hmn ▸ hlive hne'
    · rw [debouncer_setDebouncer_of_ne hmn] at hne'
      obtain ⟨t, ht⟩ := hh.live hne'
      exact ⟨t, hothers t m hmn ht⟩

/-- Stopping the remembered timer of a watch leaves the timers of other watches alone. -/
lemma IsTimed.isLive_stopTimer (hh : h.IsTimed) {t : Nat} (hmn : m ≠ n)
    (ht : h.timers.IsLive t m) : ((h.debouncer n).stopTimer h.timers).IsLive t m := by
  rw [Debouncer.stopTimer]
  split
  · next t' ht' =>
    refine ht.stop fun htt => hmn ?_
    have howner := hh.owner ht'
    rw [htt, ht.owner_eq] at howner
    exact Option.some.inj howner
  · exact ht

/-- A timer keeps its owner when a debouncer stops its timer. -/
lemma owner?_stopTimer (d : Debouncer) (t : Nat) : (d.stopTimer ts).owner? t = ts.owner? t := by
  rw [Debouncer.stopTimer]
  split
  · exact Timers.owner?_stop ..
  · rfl

/-! ### Adding and starting watches -/

/-- A watch keeps its target when another one is added. -/
lemma target?_addWatch_of_some {p : Path} {subject : κ} {target : Path × κ}
    (ht : h.target? n = some target) : (h.addWatch p subject).target? n = some target := by
  obtain ⟨w, hw, rfl⟩ := Option.map_eq_some_iff.mp ht
  rw [target?, addWatch, List.getElem?_append_left (List.getElem?_eq_some_iff.mp hw).1, hw]
  rfl

/-- A watch that is added has the target that it was added for. -/
lemma target?_addWatch_self (p : Path) (subject : κ) :
    (h.addWatch p subject).target? h.watches.length = some (p, subject) := by
  rw [target?, addWatch, List.getElem?_concat_length]
  rfl

/-- A new watch has gathered nothing. -/
lemma debouncer_addWatch (p : Path) (subject : κ) (m : Nat) :
    (h.addWatch p subject).debouncer m = h.debouncer m := by
  rw [debouncer, debouncer, addWatch, List.getElem?_append]
  split
  · rfl
  · next hle =>
    rw [List.getElem?_eq_none (Nat.not_lt.mp hle)]
    cases (m - h.watches.length) <;> rfl

/-- Starting a watch changes the observers only: its own runs then, and the others go on. -/
lemma start_eq (h : Hub κ) (n : Nat) : ∃ observers, h.start n = { h with observers } ∧
    .file n ∈ observers ∧ ∀ o ∈ h.observers, o ∈ observers := by
  unfold start
  split
  · next hruns => exact ⟨h.observers, rfl, List.contains_iff_mem.mp hruns, fun _ ho => ho⟩
  · exact ⟨_, rfl, by simp, fun _ ho => List.mem_append_left _ ho⟩

/-- Adding a watch keeps the watches timed. -/
lemma IsTimed.addWatch (hh : h.IsTimed) (p : Path) (subject : κ) :
    (h.addWatch p subject).IsTimed where
  owner := by
    intro m t ht
    rw [debouncer_addWatch] at ht
    exact hh.owner ht
  live := by
    intro m hne
    rw [gathered, debouncer_addWatch] at hne
    exact hh.live hne

/-- Only watches and timers count. -/
lemma IsTimed.of_eq (hh : h.IsTimed) (hwatches : h'.watches = h.watches)
    (htimers : h'.timers = h.timers) : h'.IsTimed := by
  have hdebouncer : h'.debouncer = h.debouncer := by
    funext n
    rw [debouncer, debouncer, hwatches]
  refine ⟨?_, ?_⟩
  · rw [hdebouncer, htimers]
    exact hh.owner
  · unfold gathered
    rw [hdebouncer, htimers]
    exact hh.live

/-! ### Stopping a watch -/

/-- Stopping a watch that is not there does nothing. -/
lemma stop_of_none (hw : h.watches[n]? = none) : h.stop n = h := by
  rw [stop, hw]

/-- Stopping a watch makes its debouncer idle, stops the timer and takes its observer away. -/
lemma stop_of_some {w : FileWatch κ} (hw : h.watches[n]? = some w) :
    h.stop n = { h.setDebouncer n .idle with
      timers := (h.debouncer n).stopTimer h.timers, observers := h.observers.erase (.file n) } := by
  have hdebouncer : h.debouncer n = w.debouncer := by
    rw [debouncer, hw]
    rfl
  rw [stop, hw, hdebouncer]
  rfl

/-- Stopping a watch changes no target. -/
lemma target?_stop : (h.stop n).target? m = h.target? m := by
  cases hw : h.watches[n]? with
  | none => rw [stop_of_none hw]
  | some w =>
    rw [stop_of_some hw]
    exact target?_setDebouncer

/-- Stopping a watch leaves alone what the others have gathered. -/
lemma gathered_stop_of_ne (hmn : m ≠ n) : (h.stop n).gathered m = h.gathered m := by
  cases hw : h.watches[n]? with
  | none => rw [stop_of_none hw]
  | some w =>
    rw [stop_of_some hw]
    exact congrArg Debouncer.pending (debouncer_setDebouncer_of_ne hmn)

/-- Stopping a watch leaves the observers of the others running. -/
lemma mem_observers_stop_of_ne (hmn : m ≠ n) (hm : .file m ∈ h.observers) :
    .file m ∈ (h.stop n).observers := by
  cases hw : h.watches[n]? with
  | none => rwa [stop_of_none hw]
  | some w =>
    rw [stop_of_some hw]
    exact (List.mem_erase_of_ne fun heq => hmn (Observer.file.inj heq)).mpr hm

/-- Stopping a watch keeps the watches timed. -/
lemma IsTimed.stop (hh : h.IsTimed) (n : Nat) : (h.stop n).IsTimed := by
  cases hw : h.watches[n]? with
  | none => rwa [stop_of_none hw]
  | some w =>
    rw [stop_of_some hw]
    refine IsTimed.of_eq (hh.replace hw ?_ ?_ ?_ ?_) rfl rfl
    · exact fun t o ho => (owner?_stopTimer (h.debouncer n) t).trans ho
    · exact fun t m hmn ht => hh.isLive_stopTimer hmn ht
    · exact fun t ht => nomatch ht
    · exact fun hne => absurd rfl hne

/-! ### Events -/

/-- A watch that is told about an event stays as it is, or its debouncer is triggered because the
event concerns its file. -/
lemma touch_cases {place : List Text} {e : FileEvent} (ht : h.touch place n e = .ok h') :
    h' = h ∧ (∀ p subject, h.target? n = some (p, subject) → e.concerns place p ≠ .ok true) ∨
      ∃ w, h.watches[n]? = some w ∧ e.concerns place w.path = .ok true ∧
        h' = { h.setDebouncer n ((h.debouncer n).trigger h.timers n w.path).1 with
          timers := ((h.debouncer n).trigger h.timers n w.path).2 } := by
  unfold touch at ht
  cases hw : h.watches[n]? with
  | none =>
    rw [hw] at ht
    cases ht
    refine Or.inl ⟨rfl, fun p subject htarget => ?_⟩
    rw [target?, hw] at htarget
    cases htarget
  | some w =>
    rw [hw] at ht
    have hdebouncer : h.debouncer n = w.debouncer := by
      rw [debouncer, hw]
      rfl
    cases hconcerns : e.concerns place w.path with
    | error why =>
      simp only [hconcerns, bind, Except.bind] at ht
      cases ht
    | ok b =>
      simp only [hconcerns, bind, Except.bind] at ht
      cases b with
      | false =>
        cases ht
        refine Or.inl ⟨rfl, fun p subject htarget hp => ?_⟩
        rw [target?, hw] at htarget
        cases htarget
        cases hconcerns.symm.trans hp
      | true =>
        cases ht
        exact Or.inr ⟨w, rfl, hconcerns, by rw [hdebouncer]⟩

/-- Behind an arrival something is gathered. -/
lemma pending_trigger_ne_nil (d : Debouncer) (ts : Timers Nat) (n : Nat) (p : Path) :
    (d.trigger ts n p).1.pending ≠ [] := by
  rw [Debouncer.trigger]
  dsimp only
  split
  · next hmem => exact List.ne_nil_of_mem hmem
  · simp

/-- Behind an arrival the watch whose debouncer it reaches has gathered something. -/
lemma gathered_trigger {w : FileWatch κ} (hw : h.watches[n]? = some w) (p : Path) :
    (h.setDebouncer n ((h.debouncer n).trigger h.timers n p).1).gathered n ≠ [] := by
  rw [gathered, debouncer_setDebouncer_self hw]
  exact pending_trigger_ne_nil _ _ _ _

/-- Telling a watch about an event changes no target. -/
lemma target?_touch {place : List Text} {e : FileEvent} (ht : h.touch place n e = .ok h') :
    h'.target? m = h.target? m := by
  rcases touch_cases ht with ⟨rfl, -⟩ | ⟨w, -, -, rfl⟩
  · rfl
  · exact target?_setDebouncer

/-- Telling a watch about an event changes no observer. -/
lemma observers_touch {place : List Text} {e : FileEvent} (ht : h.touch place n e = .ok h') :
    h'.observers = h.observers := by
  rcases touch_cases ht with ⟨rfl, -⟩ | ⟨w, -, -, rfl⟩ <;> rfl

/-- What was gathered stays gathered when an event is told. -/
lemma gathered_touch {place : List Text} {e : FileEvent} (ht : h.touch place n e = .ok h')
    (hne : h.gathered m ≠ []) : h'.gathered m ≠ [] := by
  rcases touch_cases ht with ⟨rfl, -⟩ | ⟨w, hw, -, rfl⟩
  · exact hne
  · by_cases hmn : m = n
    · exact hmn ▸ gathered_trigger hw w.path
    · exact (congrArg Debouncer.pending (debouncer_setDebouncer_of_ne hmn)).trans_ne hne

/-- A watch that is told about an event that concerns its file has gathered something. -/
lemma gathered_touch_self {place : List Text} {e : FileEvent} {p : Path} {subject : κ}
    (ht : h.touch place n e = .ok h') (htarget : h.target? n = some (p, subject))
    (hconcerns : e.concerns place p = .ok true) : h'.gathered n ≠ [] := by
  rcases touch_cases ht with ⟨-, hnot⟩ | ⟨w, hw, -, rfl⟩
  · exact absurd hconcerns (hnot p subject htarget)
  · exact gathered_trigger hw w.path

/-- A watch can be told about an event that concerns its file. -/
lemma exists_touch {place : List Text} {e : FileEvent} {p : Path} {subject : κ}
    (htarget : h.target? n = some (p, subject)) (hconcerns : e.concerns place p = .ok true) :
    ∃ h', h.touch place n e = .ok h' := by
  obtain ⟨w, hw, hpath⟩ := Option.map_eq_some_iff.mp htarget
  cases hpath
  unfold touch
  rw [hw]
  dsimp only
  rw [hconcerns]
  exact ⟨_, rfl⟩

/-- Telling a watch about an event keeps the watches timed. -/
lemma IsTimed.touch (hh : h.IsTimed) {place : List Text} {e : FileEvent}
    (ht : h.touch place n e = .ok h') : h'.IsTimed := by
  rcases touch_cases ht with ⟨rfl, -⟩ | ⟨w, hw, -, rfl⟩
  · exact hh
  · refine hh.replace hw ?_ ?_ ?_ ?_
    · exact fun t o ho => Timers.owner?_start ((owner?_stopTimer (h.debouncer n) t).trans ho) n
    · exact fun t m hmn ht => (hh.isLive_stopTimer hmn ht).start n
    · rintro t ⟨⟩
      exact Timers.isLive_start.owner_eq
    · exact fun _ => ⟨_, Timers.isLive_start⟩

/-! ### Timers that fire -/

/-- A timer that fires hands nothing over, or the subject of the watch that it belongs to, which
has nothing gathered then. -/
lemma expire_cases (h : Hub κ) (timer : Nat) :
    (h.timers.owner? timer = none ∧
      h.expire timer = (none, { h with timers := h.timers.stop timer })) ∨
    ∃ n, h.timers.owner? timer = some n ∧
      (h.watches[n]? = none ∧ h.expire timer = (none, { h with timers := h.timers.stop timer }) ∨
        ∃ w, h.watches[n]? = some w ∧
          h.expire timer = (if h.gathered n = [] then none else some w.subject,
            { h.setDebouncer n (h.debouncer n).elapse.2 with
              timers := h.timers.stop timer })) := by
  unfold expire
  dsimp only
  rw [Timers.owner?_stop]
  cases howner : h.timers.owner? timer with
  | none => exact Or.inl ⟨rfl, rfl⟩
  | some n =>
    refine Or.inr ⟨n, rfl, ?_⟩
    cases hw : h.watches[n]? with
    | none => exact Or.inl ⟨rfl, by simp [hw]⟩
    | some w =>
      have hdebouncer : h.debouncer n = w.debouncer := by
        rw [debouncer, hw]
        rfl
      refine Or.inr ⟨w, rfl, ?_⟩
      rw [gathered, hdebouncer]
      by_cases hpending : w.debouncer.pending = []
      · simp only [hw, Debouncer.elapse, hpending, if_true]
        rfl
      · simp only [hw, Debouncer.elapse, hpending, if_false]
        rw [if_neg (mt List.isEmpty_iff.mp hpending)]
        rfl

/-- What a watch has gathered stays so when a timer fires, or its subject is handed over. -/
lemma gathered_expire {timer : Nat} {p : Path} {subject : κ}
    (htarget : h.target? n = some (p, subject)) (hne : h.gathered n ≠ []) :
    (h.expire timer).2.gathered n ≠ [] ∨ (h.expire timer).1 = some subject := by
  rcases expire_cases h timer with ⟨-, heq⟩ | ⟨m, -, ⟨-, heq⟩ | ⟨w, hw, heq⟩⟩
  · rw [heq]
    exact Or.inl hne
  · rw [heq]
    exact Or.inl hne
  · rw [heq]
    by_cases hnm : n = m
    · rw [target?, hnm, hw] at htarget
      cases htarget
      exact Or.inr (if_neg (hnm ▸ hne))
    · exact Or.inl ((congrArg Debouncer.pending (debouncer_setDebouncer_of_ne hnm)).trans_ne hne)

/-- A timer that fires changes no target. -/
lemma target?_expire (timer : Nat) : (h.expire timer).2.target? n = h.target? n := by
  rcases expire_cases h timer with ⟨-, heq⟩ | ⟨m, -, ⟨-, heq⟩ | ⟨w, hw, heq⟩⟩
  · rw [heq]
    rfl
  · rw [heq]
    rfl
  · rw [heq]
    exact target?_setDebouncer

/-- A timer that fires changes no observer. -/
lemma observers_expire (timer : Nat) : (h.expire timer).2.observers = h.observers := by
  rcases expire_cases h timer with ⟨-, heq⟩ | ⟨m, -, ⟨-, heq⟩ | ⟨w, hw, heq⟩⟩
  · rw [heq]
  · rw [heq]
  · rw [heq]
    rfl

/-- A timer that fires keeps the watches timed. -/
lemma IsTimed.expire (hh : h.IsTimed) (timer : Nat) : (h.expire timer).2.IsTimed := by
  have howner : ∀ t o, h.timers.owner? t = some o → (h.timers.stop timer).owner? t = some o :=
    fun t o ho => (Timers.owner?_stop h.timers timer t).trans ho
  -- The timer is no longer live, but that of a watch with something gathered is another one.
  have hbare : (∀ n, h.timers.owner? timer = some n → h.gathered n = []) →
      ({ h with timers := h.timers.stop timer } : Hub κ).IsTimed := by
    intro hnone
    refine ⟨fun ht => howner _ _ (hh.owner ht), fun hne => ?_⟩
    obtain ⟨t, ht⟩ := hh.live hne
    exact ⟨t, ht.stop fun htt => hne (hnone _ (htt ▸ ht.owner_eq))⟩
  rcases expire_cases h timer with ⟨hnone, heq⟩ | ⟨n, hn, ⟨hw, heq⟩ | ⟨w, hw, heq⟩⟩
  · rw [heq]
    exact hbare fun n hn => nomatch hnone.symm.trans hn
  · rw [heq]
    refine hbare fun m hm => ?_
    cases hn.symm.trans hm
    rw [gathered, debouncer, hw]
    rfl
  · rw [heq]
    refine hh.replace hw howner ?_ ?_ ?_
    · intro t m hmn ht
      refine ht.stop fun htt => hmn ?_
      have hm := ht.owner_eq
      rw [← htt, hn] at hm
      exact (Option.some.inj hm).symm
    · intro t ht
      rw [Debouncer.elapse] at ht
      split at ht
      · exact howner t n (hh.owner ht)
      · cases ht
    · intro hne
      rw [Debouncer.elapse] at hne
      split at hne
      · next hnone => exact absurd hnone hne
      · exact absurd rfl hne

/-! ### What goes on being watched -/

/-- Watches keep their targets, and observers of files that run go on running. -/
structure Keeps (h h' : Hub κ) : Prop where
  target : ∀ {n target}, h.target? n = some target → h'.target? n = some target
  observer : ∀ {n}, .file n ∈ h.observers → .file n ∈ h'.observers

/-- What does not change is kept. -/
lemma Keeps.refl (h : Hub κ) : h.Keeps h := ⟨id, id⟩

/-- Adding a watch and starting it keeps all targets and observers. -/
lemma keeps_addWatch_start (h : Hub κ) (p : Path) (subject : κ) (n : Nat) :
    h.Keeps ((h.addWatch p subject).start n) := by
  obtain ⟨observers, heq, -, hkept⟩ := (h.addWatch p subject).start_eq n
  rw [heq]
  exact ⟨fun ht => target?_addWatch_of_some ht, fun ho => hkept _ ho⟩

/-- Telling a watch about an event keeps all targets and observers. -/
lemma keeps_touch {place : List Text} {n : Nat} {e : FileEvent} (ht : h.touch place n e = .ok h') :
    h.Keeps h' :=
  ⟨fun htarget => (target?_touch ht).trans htarget, fun ho => (observers_touch ht).symm ▸ ho⟩

/-- A timer that fires keeps all targets and observers. -/
lemma keeps_expire (h : Hub κ) (timer : Nat) : h.Keeps (h.expire timer).2 :=
  ⟨fun htarget => (target?_expire timer).trans htarget,
    fun ho => (observers_expire timer).symm ▸ ho⟩

end Hub

end DesignTokens
