import DesignTokens.Proofs.Signal.Subscription

/-!
# Delivery to a snapshot

Listeners may change the list of the signal that calls them: they connect others or themselves,
they call unsubscribe functions, they clear everything, and any of them may fail behind that.  What
a listener does depends on all that has happened to the signal so far (`Usage`), but it does not
fire the signal again.

Firing is compared with the calls that were made, each with the acts of its listener and the
exception that it raised, if there is one (`Call`).  What some calls amount to is read off them at
once (`Usage.afterCalls`): their acts are performed in the order of the calls, and one failure is
noted for each that raised something.  Firing makes one call for every listener that was there when
it began, and it ends normally even if it is carried out as a program in which exceptions are thrown
(`fire_delivers_snapshot`).
-/

namespace DesignTokens

namespace Signal

variable {α ε : Type}

/-- What a listener does when it is called: some acts on the list, and then it may raise an
exception. -/
structure Conduct (α ε : Type) where
  /-- The acts, in their order. -/
  acts : List (Act α)
  /-- The exception. -/
  raised : Option ε

/-- A call of a listener that was made. -/
structure Call (α ε : Type) extends Conduct α ε where
  /-- The listener. -/
  listener : α

/-- How a call ends. -/
def Conduct.reply (c : Conduct α ε) : Reply :=
  if c.raised.isSome then .failed else .done

variable [DecidableEq α]

/-- The state behind some calls: their acts were performed one after another, and a failure was
noted for each that raised something. -/
def Usage.afterCalls (u : Usage α) (calls : List (Call α ε)) : Usage α where
  signal := ((calls.flatMap fun c => c.acts).foldl Usage.perform u).signal
  acts := u.acts ++ calls.flatMap fun c => c.acts
  calls := u.calls ++ calls.map Call.listener
  journal := u.journal ++
    List.replicate (calls.countP fun c => c.raised.isSome) u.signal.failureEntry

/-- The state behind one call. -/
def Usage.afterCall (entry : LogEntry) (u : Usage α) (c : Call α ε) : Usage α :=
  let v := c.acts.foldl Usage.perform (u.called c.listener)
  if c.raised.isSome then v.note entry else v

/-- A listener is called: it performs its acts and ends in its way. -/
def Usage.call (behaviour : α → Usage α → Conduct α ε) (listener : α) (u : Usage α) :
    Reply × Usage α :=
  let c := behaviour listener (u.called listener)
  (c.reply, c.acts.foldl Usage.perform (u.called listener))

/-! ### Calls and acts -/

/-- The acts of a list change nothing but the signal and the account of the acts. -/
lemma foldl_perform_eq (acts : List (Act α)) (u : Usage α) :
    acts.foldl Usage.perform u =
      { u with signal := (acts.foldl Usage.perform u).signal, acts := u.acts ++ acts } := by
  induction acts generalizing u with
  | nil => simp
  | cons a rest ih =>
    rw [List.foldl_cons, ih]
    simp [Usage.perform]

/-- What acts make of a signal depends on the signal and on the acts before them. -/
lemma signal_foldl_perform_congr {u v : Usage α} (hsignal : u.signal = v.signal)
    (hacts : u.acts = v.acts) (acts : List (Act α)) :
    (acts.foldl Usage.perform u).signal = (acts.foldl Usage.perform v).signal := by
  induction acts generalizing u v with
  | nil => exact hsignal
  | cons a rest ih =>
    refine ih ?_ ?_
    · rw [Usage.perform, Usage.perform, hsignal, hacts]
    · rw [Usage.perform, Usage.perform, hacts]

/-- An empty list of calls changes nothing. -/
@[simp] lemma afterCalls_nil (u : Usage α) : u.afterCalls ([] : List (Call α ε)) = u := by
  simp [Usage.afterCalls]

/-- One more call is made in the state behind the others. -/
lemma afterCalls_concat (u : Usage α) (calls : List (Call α ε)) (c : Call α ε) :
    u.afterCalls (calls ++ [c]) = (u.afterCalls calls).afterCall u.signal.failureEntry c := by
  have hsignal : (c.acts.foldl Usage.perform ((u.afterCalls calls).called c.listener)).signal =
      (((calls ++ [c]).flatMap fun c => c.acts).foldl Usage.perform u).signal := by
    rw [List.flatMap_append, List.flatMap_singleton, List.foldl_append]
    refine signal_foldl_perform_congr ?_ ?_ c.acts
    · rfl
    · exact (acts_foldl_perform _ u).symm
  rw [Usage.afterCall, foldl_perform_eq, hsignal]
  by_cases hraised : c.raised.isSome = true
  · simp [Usage.afterCalls, Usage.called, Usage.note, hraised, List.replicate_succ']
  · simp [Usage.afterCalls, Usage.called, hraised]

/-! ### A firing -/

section Firing

variable (behaviour : α → Usage α → Conduct α ε) (u : Usage α)

/-- Some calls follow the behaviour of the listeners: each finds the state behind those before
it. -/
def Follows (calls : List (Call α ε)) : Prop :=
  ∀ before c rest, calls = before ++ c :: rest →
    c.toConduct = behaviour c.listener ((u.afterCalls before).called c.listener)

/-- An empty list of calls follows the behaviour of the listeners. -/
lemma follows_nil : Follows behaviour u [] := by
  intro before c rest heq
  cases before <;> cases heq

/-- A further call follows the behaviour if it is what its listener does behind the calls before. -/
lemma Follows.concat {calls : List (Call α ε)} (hf : Follows behaviour u calls) {c : Call α ε}
    (hc : c.toConduct = behaviour c.listener ((u.afterCalls calls).called c.listener)) :
    Follows behaviour u (calls ++ [c]) := by
  intro before c' rest heq
  rcases History.cases_of_concat heq with ⟨rfl, rfl, -⟩ | ⟨rest, -, hbefore⟩
  · exact hc
  · exact hf before c' rest hbefore

/-- Delivering goes on behind each call. -/
lemma deliver_cons (entry : LogEntry) (l : α) (rest : List α) :
    deliver (Usage.call behaviour) (Usage.note entry) (l :: rest) u =
      deliver (Usage.call behaviour) (Usage.note entry) rest
        (u.afterCall entry ⟨behaviour l (u.called l), l⟩) := by
  rw [deliver, Usage.call, Usage.afterCall]
  dsimp only
  rw [Conduct.reply]
  cases (behaviour l (u.called l)).raised <;> rfl

/-- Delivering to what is left of a snapshot adds a call for each of its entries. -/
lemma deliver_eq (rest : List α) (calls : List (Call α ε)) (hf : Follows behaviour u calls) :
    ∃ more : List (Call α ε), more.map Call.listener = rest ∧
      deliver (Usage.call behaviour) (Usage.note u.signal.failureEntry) rest (u.afterCalls calls) =
        u.afterCalls (calls ++ more) ∧ Follows behaviour u (calls ++ more) := by
  induction rest generalizing calls with
  | nil => exact ⟨[], rfl, by simp [deliver], by simpa using hf⟩
  | cons l rest ih =>
    let c : Call α ε := ⟨behaviour l ((u.afterCalls calls).called l), l⟩
    obtain ⟨more, hmore, hdeliver, hfollows⟩ := ih (calls ++ [c]) (hf.concat behaviour u rfl)
    rw [List.append_assoc, List.singleton_append] at hdeliver hfollows
    refine ⟨c :: more, by rw [List.map_cons, hmore], ?_, hfollows⟩
    rw [deliver_cons, ← hdeliver, afterCalls_concat]

/-! ### Firing with exceptions -/

/-- A listener as a program: it performs its acts, and then it may throw an exception. -/
def attempt (listener : α) : EStateM ε (Usage α) Unit := do
  modify fun u => u.called listener
  let c := behaviour listener (← get)
  modify fun u => c.acts.foldl Usage.perform u
  match c.raised with
  | some why => throw why
  | none => pure ()

/-- Firing as a program: every listener that is there at the beginning is tried, and what it throws
is caught and noted. -/
def fireTrying : EStateM ε (Usage α) Unit := do
  let u ← get
  forM u.signal.listeners fun listener => do
    try attempt behaviour listener
    catch _ => modify (Usage.note u.signal.failureEntry)

/-- A listener throws what it raises, behind its acts. -/
lemma run_attempt (l : α) :
    (attempt behaviour l).run u =
      let v := (behaviour l (u.called l)).acts.foldl Usage.perform (u.called l)
      match (behaviour l (u.called l)).raised with
      | some why => .error why v
      | none => .ok () v := by
  cases hraised : (behaviour l (u.called l)).raised with
  | none => simp [attempt, hraised]
  | some why => simp [attempt, hraised]

/-- A listener that is tried ends normally, in the state behind its call. -/
lemma run_try_attempt (entry : LogEntry) (l : α) :
    (tryCatch (attempt behaviour l) fun _ => modify (Usage.note entry)).run u =
      .ok () (u.afterCall entry ⟨behaviour l (u.called l), l⟩) := by
  have hcatch : (tryCatch (attempt behaviour l) fun _ => modify (Usage.note entry)).run u =
      match (attempt behaviour l).run u with
      | .ok a v => .ok a v
      | .error _ v => .ok () (v.note entry) := by
    change EStateM.tryCatch _ _ u = _
    rw [EStateM.tryCatch, EStateM.run]
    cases attempt behaviour l u <;> rfl
  rw [hcatch, run_attempt]
  dsimp only
  rw [Usage.afterCall]
  cases (behaviour l (u.called l)).raised <;> rfl

/-- Trying the listeners of a snapshot ends normally, in the state that delivering ends in. -/
lemma run_forM_try (entry : LogEntry) (snapshot : List α) :
    (forM snapshot fun l =>
      tryCatch (attempt behaviour l) fun _ => modify (Usage.note entry)).run u =
        .ok () (deliver (Usage.call behaviour) (Usage.note entry) snapshot u) := by
  induction snapshot generalizing u with
  | nil => rfl
  | cons l rest ih =>
    rw [List.forM_cons, EStateM.run_bind, run_try_attempt, deliver_cons]
    exact ih _

end Firing

/-- One firing calls the listeners that are there when it begins, once for each entry and in their
order, each as it finds the signal behind the calls before it; it ends in the state that these calls
amount to, where their acts have changed the list in the order of the calls and each that raised
something has left one failure; and as a program with exceptions it ends normally, in that state. -/
theorem fire_delivers_snapshot (behaviour : α → Usage α → Conduct α ε) (u : Usage α) :
    ∃ calls : List (Call α ε), calls.map Call.listener = u.signal.listeners ∧
      Follows behaviour u calls ∧
      Signal.fire Usage.signal (Usage.call behaviour) Usage.note u = u.afterCalls calls ∧
      (fireTrying behaviour).run u = .ok () (u.afterCalls calls) := by
  obtain ⟨calls, hsnapshot, hdeliver, hfollows⟩ :=
    deliver_eq behaviour u u.signal.listeners [] (follows_nil behaviour u)
  rw [afterCalls_nil, List.nil_append] at hdeliver
  refine ⟨calls, hsnapshot, hfollows, hdeliver, ?_⟩
  rw [fireTrying, EStateM.run_bind, EStateM.run_get]
  dsimp only
  rw [run_forM_try, hdeliver]

/-- The first listener clears the list and fails; the second is called all the same, and what it
connects is left. -/
example :
    let behaviour : String → Usage String → Conduct String Unit := fun l _ =>
      if l = "a" then ⟨[.clear], some ()⟩ else ⟨[.connect "c"], none⟩
    let fired := Signal.fire Usage.signal (Usage.call behaviour) Usage.note
      (["a", "b"].foldl (fun u l => u.perform (.connect l)) (Usage.start "tokens changed"))
    fired.calls = ["a", "b"] ∧ fired.journal.length = 1 ∧ fired.signal.listeners = ["c"] := by
  decide

end Signal

end DesignTokens
