/-!
# Timers

Timers are listed in the order in which they were started and are known by their position.  A
timer is live until it is stopped or has fired; what fires it is not told here.
-/

namespace DesignTokens

/-- A timer that was started. -/
structure Timer (ω : Type) where
  /-- For whom the timer was started. -/
  owner : ω
  /-- Is the timer still to fire? -/
  live : Bool
  deriving Repr, DecidableEq

/-- All timers that were ever started, oldest first. -/
structure Timers (ω : Type) where
  /-- The timers. -/
  started : List (Timer ω)
  deriving Repr, DecidableEq

namespace Timers

variable {ω : Type}

/-- No timer was started. -/
def none : Timers ω :=
  ⟨[]⟩

/-- The number that the next timer will have. -/
def next (ts : Timers ω) : Nat :=
  ts.started.length

/-- Start a timer. -/
def start (ts : Timers ω) (owner : ω) : Timers ω :=
  ⟨ts.started ++ [⟨owner, true⟩]⟩

/-- A timer is no longer live. -/
def stop (ts : Timers ω) (n : Nat) : Timers ω :=
  ⟨ts.started.modify n fun t => { t with live := false }⟩

/-- The owner of a timer. -/
def owner? (ts : Timers ω) (n : Nat) : Option ω :=
  ts.started[n]?.map Timer.owner

/-- The numbers of the live timers, oldest first. -/
def live (ts : Timers ω) : List Nat :=
  ts.started.zipIdx.filterMap fun (t, n) => if t.live then some n else Option.none

end Timers

end DesignTokens
