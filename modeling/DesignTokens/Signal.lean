import DesignTokens.Journal

/-!
# Signals

A signal has listeners.  Firing calls, one after another, the listeners that were there when the
firing began, whatever they do to the list meanwhile; one that fails is noted in the journal and
does not keep the others from being called.
-/

namespace DesignTokens

/-- A named list of listeners. -/
structure Signal (α : Type) where
  /-- What the signal tells. -/
  name : String
  /-- The listeners, in the order in which they were connected. -/
  listeners : List α
  deriving Repr, DecidableEq

/-- How the call of a listener ends. -/
inductive Reply
  | done
  | failed
  deriving Repr, DecidableEq, Inhabited

namespace Signal

variable {α : Type}

/-- The signal without listeners. -/
def silent (name : String) : Signal α :=
  ⟨name, []⟩

/-- Add a listener at the end. -/
def connect (s : Signal α) (listener : α) : Signal α :=
  { s with listeners := s.listeners ++ [listener] }

/-- Remove the first occurrence of a listener, if there is one. -/
def disconnect [DecidableEq α] (s : Signal α) (listener : α) : Signal α :=
  { s with listeners := s.listeners.erase listener }

/-- Remove all listeners. -/
def clear (s : Signal α) : Signal α :=
  { s with listeners := [] }

/-- The number of listeners. -/
def size (s : Signal α) : Nat :=
  s.listeners.length

/-- The journal entry for a listener that failed. -/
def failureEntry (s : Signal α) : LogEntry :=
  ⟨.error, .signals, "Listener for " ++ s.name ++ " failed"⟩

/-- Call listeners one after another on a state, noting those that fail. -/
def deliver {σ : Type} (call : α → σ → Reply × σ) (noteFailure : σ → σ) :
    (snapshot : List α) → σ → σ
  | [], state => state
  | listener :: rest, state =>
      match call listener state with
      | (.done, state) => deliver call noteFailure rest state
      | (.failed, state) => deliver call noteFailure rest (noteFailure state)

/-- Fire a signal that is a part of a state: its present listeners are called. -/
def fire {σ : Type} (signal : σ → Signal α) (call : α → σ → Reply × σ)
    (note : LogEntry → σ → σ) (state : σ) : σ :=
  deliver call (note (signal state).failureEntry) (signal state).listeners state

end Signal

end DesignTokens
