import DesignTokens.File.Path
import DesignTokens.Watch.Timer

/-!
# Debouncing

A debouncer gathers paths until none has come for a while: every path restarts its timer, and when
the timer fires the paths are delivered together, each once, in the order of their first arrival.
A timer that fires although it was stopped delivers what has been gathered by then; the debouncer
then forgets its timer, even if that is a younger one.
-/

namespace DesignTokens

/-- Paths that wait to be delivered, and the timer that will do it. -/
structure Debouncer where
  /-- The paths, in the order of their first arrival. -/
  pending : List Path
  /-- The timer that was started last, if it is still remembered. -/
  timer : Option Nat
  deriving Repr, DecidableEq

namespace Debouncer

/-- Nothing waits. -/
def idle : Debouncer :=
  ⟨[], none⟩

variable {ω : Type}

/-- Stop the remembered timer. -/
def stopTimer (d : Debouncer) (ts : Timers ω) : Timers ω :=
  match d.timer with
  | some n => ts.stop n
  | none => ts

/-- A path arrives; the timer is started anew for the owner. -/
def trigger (d : Debouncer) (ts : Timers ω) (owner : ω) (p : Path) : Debouncer × Timers ω :=
  let pending := if p ∈ d.pending then d.pending else d.pending ++ [p]
  let ts := d.stopTimer ts
  (⟨pending, some ts.next⟩, ts.start owner)

/-- Forget what waits, and stop the timer. -/
def cancel (d : Debouncer) (ts : Timers ω) : Debouncer × Timers ω :=
  (idle, d.stopTimer ts)

/-- A timer of the debouncer fires: the paths that wait are delivered, if there are any. -/
def elapse (d : Debouncer) : List Path × Debouncer :=
  if d.pending = [] then ([], d) else (d.pending, idle)

end Debouncer

end DesignTokens
