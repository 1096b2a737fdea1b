import DesignTokens.Proofs.History
import DesignTokens.Proofs.Watch.Hub
import Mathlib.Data.List.Induction

/-!
# Every path is delivered once

A debouncer is told about paths, it is cancelled, and timers fire: live ones, and also ones that
were stopped or have fired before.  What is due at a time is read off the history alone: the
different paths that have arrived since anything was delivered or cancelled, in the order of their
first arrival.  Whatever happens, the debouncer has gathered exactly what is due and has a live
timer for it (`Debouncing.Sound`), although it may have forgotten that timer.  So every delivery
hands over what was due, and nothing that is due is left behind
(`Debouncing.delivers_exactly_once`).
-/

namespace DesignTokens

open History

namespace Debouncer

/-- Something that is done to a debouncer. -/
inductive Step
  /-- A path arrives. -/
  | trigger (p : Path)
  /-- What was gathered is to be forgotten. -/
  | cancel
  /-- A timer fires, live or not. -/
  | fire (timer : Nat)

/-- Something that can be seen of a debouncer. -/
inductive Event
  /-- A path has arrived. -/
  | arrived (p : Path)
  /-- What was gathered has been forgotten. -/
  | cancelled
  /-- Paths have been delivered. -/
  | delivered (ps : List Path)

/-- The path that has arrived. -/
def Event.path? : Event → Option Path
  | arrived p => some p
  | _ => none

/-- Is nothing that arrived before to be delivered any more? -/
def Event.settles : Event → Bool
  | arrived _ => false
  | _ => true

/-- The paths that have arrived since anything was delivered or cancelled. -/
def arrivals (h : List Event) : List Path :=
  (sinceLast Event.settles h).filterMap Event.path?

/-- The different ones of these paths, in the order of their first arrival. -/
def due (h : List Event) : List Path :=
  (arrivals h).eraseDups

end Debouncer

open Debouncer

/-- A debouncer with the timers that it has started, and what has happened so far. -/
structure Debouncing where
  /-- The debouncer. -/
  debouncer : Debouncer
  /-- Its timers. -/
  timers : Timers Unit
  /-- What could be seen, oldest first. -/
  history : List Event

variable {p : Path} {ps : List Path} {h : List Event} {e : Event} {s : Debouncing}

/-! ### What is due -/

namespace Debouncer

/-- A path that arrives is due, behind what is due already. -/
lemma due_arrived : due (h ++ [.arrived p]) = if p ∈ due h then due h else due h ++ [p] := by
  have hmore : arrivals (h ++ [.arrived p]) = arrivals h ++ [p] := by
    rw [arrivals, sinceLast_concat, if_neg (by simp [Event.settles]), List.filterMap_append]
    rfl
  rw [due, hmore, eraseDups_concat, due]
  simp only [List.mem_eraseDups]

/-- Nothing is due behind a delivery or a cancellation. -/
lemma due_of_settles (he : e.settles = true) : due (h ++ [e]) = [] := by
  rw [due, arrivals, sinceLast_concat, if_pos he]
  rfl

end Debouncer

namespace Debouncing

/-! ### Steps -/

/-- Nothing has happened. -/
def initial : Debouncing :=
  ⟨.idle, .none, []⟩

/-- A timer fires if it was ever started: it is no longer live, and what was gathered is
delivered, if there is anything. -/
def fire (s : Debouncing) (timer : Nat) : Debouncing :=
  match s.timers.owner? timer with
  | none => s
  | some _ =>
      let (paths, debouncer) := s.debouncer.elapse
      { debouncer, timers := s.timers.stop timer,
        history := if paths = [] then s.history else s.history ++ [.delivered paths] }

/-- The state behind a step. -/
def step (s : Debouncing) : Step → Debouncing
  | .trigger p =>
      let (debouncer, timers) := s.debouncer.trigger s.timers () p
      ⟨debouncer, timers, s.history ++ [.arrived p]⟩
  | .cancel =>
      let (debouncer, timers) := s.debouncer.cancel s.timers
      ⟨debouncer, timers, s.history ++ [.cancelled]⟩
  | .fire timer => s.fire timer

/-- The state behind steps that are done one after another. -/
def after (steps : List Step) : Debouncing :=
  steps.foldl step initial

/-- A timer that was started fires: with nothing gathered, only the timer changes; else all of it
is delivered. -/
lemma fire_of_lt {timer : Nat} (ht : timer < s.timers.next) :
    s.debouncer.pending = [] ∧ s.fire timer = { s with timers := s.timers.stop timer } ∨
      s.debouncer.pending ≠ [] ∧ s.fire timer = ⟨.idle, s.timers.stop timer,
        s.history ++ [.delivered s.debouncer.pending]⟩ := by
  have howner : s.timers.owner? timer = some () := by
    rw [Timers.owner?, List.getElem?_eq_getElem ht]
    rfl
  rw [fire, howner]
  by_cases hpending : s.debouncer.pending = []
  · exact Or.inl ⟨hpending, by simp [elapse, hpending]⟩
  · exact Or.inr ⟨hpending, by simp [elapse, hpending]⟩

/-- A timer that was never started does not fire. -/
lemma fire_of_le {timer : Nat} (ht : s.timers.next ≤ timer) : s.fire timer = s := by
  have howner : s.timers.owner? timer = none := by
    rw [Timers.owner?, List.getElem?_eq_none ht]
    rfl
  rw [fire, howner]

/-! ### What holds at any time -/

/-- The debouncer has gathered what is due, something that is due has a live timer, and what was
delivered was due. -/
structure Sound (s : Debouncing) : Prop where
  /-- What was gathered is what is due. -/
  pending_eq : s.debouncer.pending = due s.history
  /-- What is due has a live timer. -/
  live : due s.history ≠ [] → ∃ timer, s.timers.IsLive timer ()
  /-- What was delivered was due, and was something. -/
  delivered : ∀ before ps after, s.history = before ++ .delivered ps :: after →
    ps ≠ [] ∧ ps = due before

/-- At first nothing is gathered and nothing is due. -/
lemma sound_initial : initial.Sound where
  pending_eq := rfl
  live := fun hdue => absurd rfl hdue
  delivered := by
    intro before ps after heq
    cases before <;> cases heq

/-- One more event leaves the deliveries before it as they were. -/
lemma delivered_concat
    (hs : ∀ before ps after, h = before ++ .delivered ps :: after → ps ≠ [] ∧ ps = due before)
    (he : ∀ ps, e = .delivered ps → ps ≠ [] ∧ ps = due h) :
    ∀ before ps after, h ++ [e] = before ++ .delivered ps :: after → ps ≠ [] ∧ ps = due before := by
  intro before ps after heq
  rcases cases_of_concat heq with ⟨rfl, hlast, -⟩ | ⟨rest, -, hbefore⟩
  · exact he ps hlast
  · exact hs before ps rest hbefore

/-- The arrival of a path keeps a debouncer sound. -/
lemma Sound.trigger (hs : s.Sound) (p : Path) : (s.step (.trigger p)).Sound where
  pending_eq := by
    change (if p ∈ s.debouncer.pending then _ else _) = due (s.history ++ [.arrived p])
    rw [hs.pending_eq, due_arrived]
  live := fun _ => ⟨_, Timers.isLive_start⟩
  delivered := delivered_concat hs.delivered fun _ heq => nomatch heq

/-- A cancellation keeps a debouncer sound. -/
lemma Sound.cancel (hs : s.Sound) : (s.step .cancel).Sound where
  pending_eq := (due_of_settles rfl).symm
  live := fun hdue => absurd (due_of_settles rfl) hdue
  delivered := delivered_concat hs.delivered fun _ heq => nomatch heq

/-- Where a timer fires nothing is due behind it, so it does not matter which timer that was. -/
lemma Sound.fire (hs : s.Sound) (timer : Nat) : (s.fire timer).Sound := by
  rcases Nat.lt_or_ge timer s.timers.next with ht | ht
  · rcases fire_of_lt ht with ⟨hnone, heq⟩ | ⟨hsome, heq⟩
    · rw [heq]
      exact ⟨hs.pending_eq, fun hdue => absurd (hs.pending_eq ▸ hnone) hdue, hs.delivered⟩
    · rw [heq]
      refine ⟨(due_of_settles rfl).symm, fun hdue => absurd (due_of_settles rfl) hdue,
        delivered_concat hs.delivered ?_⟩
      rintro ps ⟨⟩
      exact ⟨hsome, hs.pending_eq⟩
  · rwa [fire_of_le ht]

/-- Every step keeps a debouncer sound. -/
lemma Sound.step (hs : s.Sound) : ∀ what, (s.step what).Sound
  | .trigger p => hs.trigger p
  | .cancel => hs.cancel
  | .fire timer => hs.fire timer

/-- A debouncer is sound after any steps. -/
lemma sound_after (steps : List Step) : (after steps).Sound := by
  induction steps using List.reverseRecOn with
  | nil => exact sound_initial
  | append_singleton steps what ih =>
    rw [after, List.foldl_concat]
    exact ih.step what

/-- Whatever is done to a debouncer, each delivery hands over what was due and something was; what
is due has a live timer; and whichever timer fires that was ever started, it delivers what is due,
if there is anything. -/
theorem delivers_exactly_once (steps : List Step) :
    let s := after steps
    (∀ before ps after, s.history = before ++ .delivered ps :: after → ps ≠ [] ∧ ps = due before) ∧
      (due s.history ≠ [] → ∃ timer ∈ s.timers.live, timer < s.timers.next) ∧
      ∀ timer, timer < s.timers.next → (s.step (.fire timer)).history
        = if due s.history = [] then s.history else s.history ++ [.delivered (due s.history)] := by
  intro s
  have hs : s.Sound := sound_after steps
  refine ⟨hs.delivered, ?_, ?_⟩
  · intro hdue
    obtain ⟨timer, ht⟩ := hs.live hdue
    exact ⟨timer, Timers.mem_live_iff.mpr ⟨(), ht⟩, Timers.lt_of_owner ht.owner_eq⟩
  · intro timer ht
    change (s.fire timer).history = _
    rcases fire_of_lt ht with ⟨hnone, heq⟩ | ⟨hsome, heq⟩
    · rw [heq, if_pos (hs.pending_eq ▸ hnone)]
    · rw [heq, if_neg (hs.pending_eq ▸ hsome), ← hs.pending_eq]

end Debouncing

end DesignTokens
