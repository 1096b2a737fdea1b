import DesignTokens.Proofs.Watch.Debouncer

/-!
# Timers that are overtaken

Every path that arrives starts a timer, and before that the debouncer stops the timer that it
remembers.  If it always remembered the timer that it started last, then at most that one would be
live, and no path could be delivered sooner than its own timer fires.

A timer that fires makes the debouncer forget its timer, however, even if that is a younger one and
still live.  The younger timer has been *overtaken* then (`Overtaken`), which is read off the steps
alone.  It can no longer be stopped, and the next path that arrives starts another timer beside it.
So at every moment at most one timer is live, the one that was started last, if and only if no path
arrives while the last timer stands overtaken (`one_live_iff`).

The heart of it is what can be between two arrivals.  Behind an arrival the debouncer remembers a
live timer (`IsWaiting`), until it is cancelled or some timer fires; from then on it is idle, and
the timer that it has forgotten is live until it fires itself (`overtakenIn_iff`).
-/

namespace DesignTokens

open Debouncer History

namespace Timers

variable {ω : Type} {ts : Timers ω} {owner : ω} {n : ℕ} {d : Debouncer}

/-- A debouncer that stops its timer starts none. -/
@[simp] lemma next_stopTimer (d : Debouncer) (ts : Timers ω) : (d.stopTimer ts).next = ts.next := by
  unfold stopTimer
  split
  · exact next_stop ..
  · rfl

/-- Besides the timer that a debouncer remembers, the same timers are live once it is stopped. -/
lemma isLive_stopTimer_iff :
    (d.stopTimer ts).IsLive n owner ↔ d.timer ≠ some n ∧ ts.IsLive n owner := by
  unfold stopTimer
  split
  · next m hm => rw [isLive_stop_iff, hm, ne_eq, ne_eq, Option.some.injEq]
  · next hnone => simp [hnone]

/-- The numbers of the live timers increase. -/
lemma pairwise_live (ts : Timers ω) : ts.live.Pairwise (· < ·) := by
  have hnumbers : ts.started.zipIdx.Pairwise fun x y => x.2 < y.2 := by
    have hrange : (ts.started.zipIdx.map Prod.snd).Pairwise (· < ·) := by
      rw [List.zipIdx_map_snd]
      exact List.pairwise_lt_range'
    exact List.pairwise_map.mp hrange
  refine List.Pairwise.filterMap _ (fun x y hlt n hn m hm => ?_) hnumbers
  simp only [Option.ite_none_right_eq_some, Option.some.injEq] at hn hm
  obtain ⟨⟨-, rfl⟩, -, rfl⟩ := hn, hm
  exact hlt

end Timers

namespace Debouncer

/-- Has a path arrived? -/
def Step.isTrigger : Step → Bool
  | trigger _ => true
  | cancel | fire _ => false

/-- The number of timers that some steps start, one for each path that arrives. -/
def started (steps : List Step) : ℕ :=
  steps.countP Step.isTrigger

/-- In some steps behind the start of a timer, an older one fires, before anything is cancelled and
while that timer is still to fire. -/
def OvertakenIn (newest : ℕ) (steps : List Step) : Prop :=
  ∃ before older later, steps = before ++ .fire older :: later ∧ older < newest ∧
    .cancel ∉ before ∧ .fire newest ∉ steps

/-- No path has arrived since the last timer was started, but an older timer has fired. -/
def Overtaken (steps : List Step) : Prop :=
  ∃ earlier p since, steps = earlier ++ .trigger p :: since ∧ (∀ s ∈ since, s.isTrigger = false) ∧
    OvertakenIn (started earlier) since

/-- Without a step no timer is overtaken. -/
lemma not_overtakenIn_nil (newest : ℕ) : ¬ OvertakenIn newest [] := by
  rintro ⟨before, older, later, heq, -⟩
  cases before <;> cases heq

/-- Nothing is overtaken once it is cancelled. -/
lemma not_overtakenIn_cancel (newest : ℕ) (steps : List Step) :
    ¬ OvertakenIn newest (.cancel :: steps) := by
  rintro ⟨before, older, later, heq, -, hcancel, -⟩
  cases before with
  | nil => cases heq
  | cons s before => exact hcancel ((List.cons.inj heq).1 ▸ List.mem_cons_self)

/-- The first timer that fires decides. -/
lemma overtakenIn_fire_iff {newest timer : ℕ} {steps : List Step} :
    OvertakenIn newest (.fire timer :: steps) ↔
      timer ≠ newest ∧ .fire newest ∉ steps ∧ (timer < newest ∨ OvertakenIn newest steps) := by
  have hrest : .fire newest ∉ .fire timer :: steps ↔ timer ≠ newest ∧ .fire newest ∉ steps := by
    rw [List.mem_cons, not_or, Step.fire.injEq, ne_comm]
  constructor
  · rintro ⟨before, older, later, heq, hlt, hcancel, hnewest⟩
    obtain ⟨hne, hnewest⟩ := hrest.mp hnewest
    refine ⟨hne, hnewest, ?_⟩
    cases before with
    | nil =>
      cases heq
      exact Or.inl hlt
    | cons s before =>
      obtain ⟨-, rfl⟩ := List.cons.inj heq
      exact Or.inr ⟨before, older, later, rfl, hlt, fun h => hcancel (List.mem_cons_of_mem _ h),
        hnewest⟩
  · rintro ⟨hne, hnewest, hlt | ⟨before, older, later, rfl, hlt, hcancel, -⟩⟩
    · exact ⟨[], timer, steps, rfl, hlt, List.not_mem_nil, hrest.mpr ⟨hne, hnewest⟩⟩
    · refine ⟨.fire timer :: before, older, later, rfl, hlt, ?_, hrest.mpr ⟨hne, hnewest⟩⟩
      rw [List.mem_cons, not_or]
      exact ⟨nofun, hcancel⟩

end Debouncer

namespace Debouncing

variable {s : Debouncing} {steps since : List Step} {p : Path} {n m : ℕ}

/-! ### The timers behind a step -/

/-- A timer that fires starts none. -/
@[simp] lemma next_fire (s : Debouncing) (timer : ℕ) :
    (s.fire timer).timers.next = s.timers.next := by
  rcases Nat.lt_or_ge timer s.timers.next with ht | ht
  · rcases fire_of_lt ht with ⟨-, heq⟩ | ⟨-, heq⟩
    · rw [heq, Timers.next_stop]
    · rw [heq, Timers.next_stop]
  · rw [fire_of_le ht]

/-- A timer that fires is no longer live; the others stay as they are. -/
lemma isLive_fire_iff : (s.fire m).timers.IsLive n () ↔ m ≠ n ∧ s.timers.IsLive n () := by
  rcases Nat.lt_or_ge m s.timers.next with ht | ht
  · rcases fire_of_lt ht with ⟨-, heq⟩ | ⟨-, heq⟩
    · rw [heq, Timers.isLive_stop_iff]
    · rw [heq, Timers.isLive_stop_iff]
  · rw [fire_of_le ht]
    exact ⟨fun h => ⟨fun hmn => absurd h.lt (hmn ▸ ht.not_gt), h⟩, And.right⟩

/-- A timer that fires leaves an idle debouncer idle. -/
lemma fire_of_idle (hs : s.debouncer = .idle) (timer : ℕ) : (s.fire timer).debouncer = .idle := by
  rcases Nat.lt_or_ge timer s.timers.next with ht | ht
  · rcases fire_of_lt ht with ⟨-, heq⟩ | ⟨-, heq⟩
    · rw [heq]
      exact hs
    · rw [heq]
  · rw [fire_of_le ht, hs]

/-- A cancellation starts no timer. -/
lemma next_cancel (s : Debouncing) : (s.step .cancel).timers.next = s.timers.next :=
  Timers.next_stopTimer ..

/-- A cancellation stops the timer that is remembered, and no other. -/
lemma isLive_cancel_iff :
    (s.step .cancel).timers.IsLive n () ↔ s.debouncer.timer ≠ some n ∧ s.timers.IsLive n () :=
  Timers.isLive_stopTimer_iff

/-- A path that arrives starts one timer. -/
lemma next_trigger (s : Debouncing) (p : Path) :
    (s.step (.trigger p)).timers.next = s.timers.next + 1 := by
  have hnext : (s.step (.trigger p)).timers.next = (s.debouncer.stopTimer s.timers).next + 1 :=
    Timers.next_start ..
  rw [hnext, Timers.next_stopTimer]

/-- A path that arrives stops the timer that is remembered, and starts the next one. -/
lemma isLive_trigger_iff :
    (s.step (.trigger p)).timers.IsLive n () ↔
      s.debouncer.timer ≠ some n ∧ s.timers.IsLive n () ∨ n = s.timers.next := by
  have hlive : (s.step (.trigger p)).timers.IsLive n () ↔
      (s.debouncer.stopTimer s.timers).IsLive n () ∨
        n = (s.debouncer.stopTimer s.timers).next ∧ () = () := Timers.isLive_start_iff
  rw [hlive, Timers.isLive_stopTimer_iff, Timers.next_stopTimer, and_iff_left rfl]

/-- A timer is listed as live if it is live. -/
lemma mem_live_iff : n ∈ s.timers.live ↔ s.timers.IsLive n () := by
  rw [Timers.mem_live_iff]
  exact ⟨fun ⟨_, h⟩ => h, fun h => ⟨(), h⟩⟩

/-- The last step is done last. -/
lemma after_concat (steps : List Step) (what : Step) :
    after (steps ++ [what]) = (after steps).step what :=
  List.foldl_concat ..

/-- The timers are numbered by the arrivals. -/
lemma next_after (steps : List Step) : (after steps).timers.next = started steps := by
  induction steps using List.reverseRecOn with
  | nil => rfl
  | append_singleton steps what ih =>
    rw [after_concat, started, List.countP_append, ← started, ← ih]
    cases what with
    | trigger p => exact next_trigger _ p
    | cancel => exact next_cancel _
    | fire timer => exact next_fire _ timer

/-! ### Waiting, or idle -/

/-- The debouncer has gathered something and remembers a timer: the one that was started last,
which is live. -/
structure IsWaiting (s : Debouncing) (n : ℕ) : Prop where
  /-- Something was gathered. -/
  pending_ne : s.debouncer.pending ≠ []
  /-- The timer is remembered. -/
  timer_eq : s.debouncer.timer = some n
  /-- No timer was started behind it. -/
  next_eq : s.timers.next = n + 1
  /-- The timer is live. -/
  live : s.timers.IsLive n ()

/-- A path that arrives is gathered. -/
lemma mem_pending_trigger (s : Debouncing) (p : Path) :
    p ∈ (s.step (.trigger p)).debouncer.pending := by
  change p ∈ if p ∈ s.debouncer.pending then _ else _
  split
  · next hmem => exact hmem
  · simp

/-- Behind an arrival the debouncer waits for the timer that it has started. -/
lemma isWaiting_trigger (s : Debouncing) (p : Path) :
    (s.step (.trigger p)).IsWaiting s.timers.next where
  pending_ne := List.ne_nil_of_mem (mem_pending_trigger s p)
  timer_eq := congrArg some (Timers.next_stopTimer _ _)
  next_eq := next_trigger s p
  live := isLive_trigger_iff.mpr (Or.inr rfl)

/-- Any timer that fires makes a debouncer that waits idle. -/
lemma IsWaiting.fire (hs : s.IsWaiting n) (hm : m < s.timers.next) :
    (s.fire m).debouncer = .idle := by
  rcases fire_of_lt hm with ⟨hnone, -⟩ | ⟨-, heq⟩
  · exact absurd hnone hs.pending_ne
  · rw [heq]

/-- Behind a step the debouncer waits for a timer again, or it is idle. -/
lemma IsWaiting.step (hs : s.IsWaiting n) (what : Step) :
    (s.step what).debouncer = .idle ∨ ∃ m, (s.step what).IsWaiting m := by
  cases what with
  | trigger p => exact Or.inr ⟨_, isWaiting_trigger s p⟩
  | cancel => exact Or.inl rfl
  | fire timer =>
    change (s.fire timer).debouncer = .idle ∨ ∃ m, (s.fire timer).IsWaiting m
    rcases Nat.lt_or_ge timer s.timers.next with ht | ht
    · exact Or.inl (hs.fire ht)
    · rw [fire_of_le ht]
      exact Or.inr ⟨n, hs⟩

/-- At every moment the debouncer is idle or waits. -/
lemma idle_or_isWaiting (steps : List Step) :
    (after steps).debouncer = .idle ∨ ∃ n, (after steps).IsWaiting n := by
  induction steps using List.reverseRecOn with
  | nil => exact Or.inl rfl
  | append_singleton steps what ih =>
    rw [after_concat]
    rcases ih with hidle | ⟨n, hn⟩
    · cases what with
      | trigger p => exact Or.inr ⟨_, isWaiting_trigger _ p⟩
      | cancel => exact Or.inl rfl
      | fire timer => exact Or.inl (fire_of_idle hidle timer)
    · exact hn.step what

/-! ### Forgotten timers -/

/-- The debouncer is idle, but the timer that was started last is live. -/
def Forgets (s : Debouncing) : Prop :=
  s.debouncer = .idle ∧ ∃ n, s.timers.next = n + 1 ∧ s.timers.IsLive n ()

/-- While nothing arrives, an idle debouncer stays idle, and its timers are live until they fire. -/
lemma idle_foldl (hs : s.debouncer = .idle) (hsince : ∀ x ∈ since, x.isTrigger = false) :
    (since.foldl step s).debouncer = .idle ∧ (since.foldl step s).timers.next = s.timers.next ∧
      ∀ n, (since.foldl step s).timers.IsLive n () ↔ s.timers.IsLive n () ∧ .fire n ∉ since := by
  induction since generalizing s with
  | nil => exact ⟨hs, rfl, fun n => by simp⟩
  | cons what since ih =>
    rw [List.forall_mem_cons] at hsince
    rw [List.foldl_cons]
    cases what with
    | trigger p => cases hsince.1
    | cancel =>
      obtain ⟨hidle, hnext, hlive⟩ := ih (s := s.step .cancel) rfl hsince.2
      refine ⟨hidle, hnext.trans (next_cancel s), fun n => ?_⟩
      rw [hlive, isLive_cancel_iff, hs]
      simp [idle]
    | fire timer =>
      obtain ⟨hidle, hnext, hlive⟩ :=
        ih (s := s.step (.fire timer)) (fire_of_idle hs timer) hsince.2
      refine ⟨hidle, hnext.trans (next_fire s timer), fun n => ?_⟩
      rw [hlive, step, isLive_fire_iff, List.mem_cons, Step.fire.injEq, not_or, ne_comm]
      tauto

/-- While nothing arrives, the timer of a debouncer that waits is forgotten and live exactly once it
has been overtaken. -/
lemma overtakenIn_iff (hs : s.IsWaiting n) (hsince : ∀ x ∈ since, x.isTrigger = false) :
    (since.foldl step s).Forgets ↔ OvertakenIn n since := by
  -- Once it is idle, only the firing of the timer itself counts.
  have hidle : ∀ {s' : Debouncing} {rest : List Step}, s'.debouncer = .idle →
      s'.timers.next = n + 1 → (∀ x ∈ rest, x.isTrigger = false) →
        ((rest.foldl step s').Forgets ↔ s'.timers.IsLive n () ∧ .fire n ∉ rest) := by
    intro s' rest hs' hnext hrest
    obtain ⟨hidle, hsame, hlive⟩ := idle_foldl hs' hrest
    rw [Forgets, hsame, hnext, ← hlive]
    exact ⟨fun ⟨_, k, hk, h⟩ => Nat.succ.inj hk ▸ h, fun h => ⟨hidle, n, rfl, h⟩⟩
  induction since with
  | nil =>
    refine iff_of_false (fun h => ?_) (not_overtakenIn_nil n)
    have htimer := hs.timer_eq
    rw [List.foldl_nil, Forgets] at h
    rw [h.1] at htimer
    cases htimer
  | cons what since ih =>
    rw [List.forall_mem_cons] at hsince
    rw [List.foldl_cons]
    cases what with
    | trigger p => cases hsince.1
    | cancel =>
      rw [hidle rfl ((next_cancel s).trans hs.next_eq) hsince.2, isLive_cancel_iff]
      exact iff_of_false (fun h => h.1.1 hs.timer_eq) (not_overtakenIn_cancel n since)
    | fire timer =>
      rw [overtakenIn_fire_iff, step]
      rcases Nat.lt_or_ge timer s.timers.next with ht | ht
      · rw [hidle (hs.fire ht) ((next_fire s timer).trans hs.next_eq) hsince.2, isLive_fire_iff]
        rw [hs.next_eq] at ht
        have hle : timer ≤ n := Nat.le_of_lt_succ ht
        constructor
        · rintro ⟨⟨hne, -⟩, hfire⟩
          exact ⟨hne, hfire, Or.inl (lt_of_le_of_ne hle hne)⟩
        · rintro ⟨hne, hfire, -⟩
          exact ⟨⟨hne, hs.live⟩, hfire⟩
      · have hlt : n < timer := Nat.lt_of_succ_le (hs.next_eq.symm.trans_le ht)
        rw [fire_of_le ht]
        refine (ih hsince.2).trans ?_
        constructor
        · intro h
          have hfire : .fire n ∉ since := by
            obtain ⟨-, -, -, -, -, -, hfire⟩ := h
            exact hfire
          exact ⟨hlt.ne', hfire, Or.inr h⟩
        · rintro ⟨-, -, hnot | h⟩
          · exact absurd hnot hlt.not_gt
          · exact h

/-- Some steps let nothing arrive, or there is a last arrival among them. -/
lemma exists_last_trigger (steps : List Step) :
    (∀ x ∈ steps, x.isTrigger = false) ∨ ∃ earlier p since,
      steps = earlier ++ .trigger p :: since ∧ ∀ x ∈ since, x.isTrigger = false := by
  induction steps with
  | nil => exact Or.inl fun _ h => nomatch h
  | cons what steps ih =>
    rcases ih with hnone | ⟨earlier, p, since, rfl, hsince⟩
    · cases what with
      | trigger p => exact Or.inr ⟨[], p, steps, rfl, hnone⟩
      | cancel => exact Or.inl (List.forall_mem_cons.mpr ⟨rfl, hnone⟩)
      | fire timer => exact Or.inl (List.forall_mem_cons.mpr ⟨rfl, hnone⟩)
    · exact Or.inr ⟨what :: earlier, p, since, rfl, hsince⟩

/-- The timer that was started last is forgotten and live exactly if it has been overtaken. -/
lemma forgets_iff (steps : List Step) : (after steps).Forgets ↔ Overtaken steps := by
  have hlast : ∀ {earlier p since}, (∀ x ∈ since, Step.isTrigger x = false) →
      ((after (earlier ++ .trigger p :: since)).Forgets ↔
        OvertakenIn (started earlier) since) := by
    intro earlier p since hsince
    have hwaiting := isWaiting_trigger (after earlier) p
    rw [next_after] at hwaiting
    rw [after, List.foldl_append, List.foldl_cons, ← after]
    exact overtakenIn_iff hwaiting hsince
  constructor
  · intro h
    rcases exists_last_trigger steps with hnone | ⟨earlier, p, since, rfl, hsince⟩
    · obtain ⟨-, n, -, hn⟩ := h
      have hstart := ((idle_foldl (s := initial) rfl hnone).2.2 n).mp hn
      cases hstart.1
    · exact ⟨earlier, p, since, rfl, hsince, (hlast hsince).mp h⟩
  · rintro ⟨earlier, p, since, rfl, hsince, h⟩
    exact (hlast hsince).mpr h

/-! ### One live timer -/

/-- Every live timer is the one that was started last. -/
def OnlyNewest (s : Debouncing) : Prop :=
  ∀ n, s.timers.IsLive n () → s.timers.next = n + 1

/-- Each step keeps the last timer the only one that may be live, unless a path arrives while that
timer is forgotten. -/
lemma onlyNewest_step_iff (hs : s.debouncer = .idle ∨ ∃ n, s.IsWaiting n) (h : s.OnlyNewest)
    (what : Step) :
    (s.step what).OnlyNewest ↔ ∀ p, what = .trigger p → ¬ s.Forgets := by
  cases what with
  | cancel =>
    refine iff_of_true (fun n hn => ?_) fun _ heq => nomatch heq
    exact (next_cancel s).trans (h n (isLive_cancel_iff.mp hn).2)
  | fire timer =>
    refine iff_of_true (fun n hn => ?_) fun _ heq => nomatch heq
    exact (next_fire s timer).trans (h n (isLive_fire_iff.mp hn).2)
  | trigger p =>
    have hstep : (s.step (.trigger p)).OnlyNewest ↔
        ∀ n, s.timers.IsLive n () → s.debouncer.timer = some n := by
      rw [OnlyNewest, next_trigger]
      constructor
      · intro hall n hn
        by_contra hne
        have hsame := hall n (isLive_trigger_iff.mpr (Or.inl ⟨hne, hn⟩))
        have hlt := hn.lt
        omega
      · intro hall n hn
        rcases isLive_trigger_iff.mp hn with ⟨hne, hlive⟩ | rfl
        · exact absurd (hall n hlive) hne
        · rfl
    rw [hstep]
    -- A debouncer that waits knows the newest timer, which by `h` is the only live one.
    rcases hs with hidle | ⟨m, hm⟩
    · simp only [Step.trigger.injEq, forall_eq', Forgets, hidle, true_and, not_exists, not_and]
      constructor
      · intro hall n _ hn
        cases hall n hn
      · intro hall n hn
        exact absurd hn (hall n (h n hn))
    · refine iff_of_true (fun n hn => ?_) fun _ _ hforgets => ?_
      · rw [hm.timer_eq, Nat.succ.inj (hm.next_eq.symm.trans (h n hn))]
      · exact nomatch hforgets.1 ▸ hm.timer_eq

/-- A timer that fires delivers a path. -/
def Delivers (s : Debouncing) (timer : ℕ) (p : Path) : Prop :=
  ∃ ps, p ∈ ps ∧ (s.step (.fire timer)).history = s.history ++ [.delivered ps]

/-- At most one timer is live after some steps, the one that the last arrival started, so that no
live timer delivers a path that has arrived again since that timer was started. -/
structure OneLive (steps : List Step) : Prop where
  /-- At most one timer is live. -/
  length_le : (after steps).timers.live.length ≤ 1
  /-- It is the one that was started last. -/
  newest : ∀ n ∈ (after steps).timers.live, n + 1 = started steps
  /-- What it delivers arrived no later than it was started. -/
  delivers : ∀ n ∈ (after steps).timers.live, ∀ p, (after steps).Delivers n p →
    ∀ earlier later, steps = earlier ++ .trigger p :: later → started earlier ≤ n

/-- All of this comes down to every live timer being the one that was started last. -/
lemma oneLive_iff (steps : List Step) : OneLive steps ↔ (after steps).OnlyNewest := by
  refine ⟨fun h n hn => ?_, fun h => ?_⟩
  · rw [next_after, h.newest n (mem_live_iff.mpr hn)]
  · have hnewest : ∀ n ∈ (after steps).timers.live, n + 1 = started steps := by
      intro n hn
      rw [← next_after, h n (mem_live_iff.mp hn)]
    refine ⟨?_, hnewest, ?_⟩
    · have hsorted := (after steps).timers.pairwise_live
      match hlive : (after steps).timers.live with
      | [] => exact Nat.zero_le 1
      | [n] => exact Nat.le_refl 1
      | n :: m :: rest =>
        rw [hlive] at hsorted hnewest
        have hlt : n < m := (List.pairwise_cons.mp hsorted).1 m List.mem_cons_self
        have hn := hnewest n List.mem_cons_self
        have hm := hnewest m (List.mem_cons_of_mem _ List.mem_cons_self)
        omega
    · rintro n hn p - earlier later heq
      have hn := hnewest n hn
      have hcount : started steps = started earlier + (started later + 1) := by
        rw [heq, started, List.countP_append, List.countP_cons_of_pos rfl]
        rfl
      omega

/-- At every moment of a run at most one timer is live, the one of the most recent arrival, and no
live timer delivers a path that has arrived since it was started, if and only if no path arrives
while the last timer has been overtaken.  Where one does, an older timer is live beside the new one
and delivers that path. -/
theorem one_live_iff (steps : List Step) :
    ((∀ h, h <+: steps → OneLive h) ↔ ∀ h p, h ++ [.trigger p] <+: steps → ¬ Overtaken h) ∧
      ∀ h p, Overtaken h → ∃ older < started h,
        older ∈ (after (h ++ [.trigger p])).timers.live ∧
          started h ∈ (after (h ++ [.trigger p])).timers.live ∧
            (after (h ++ [.trigger p])).Delivers older p := by
  refine ⟨?_, fun h p hovertaken => ?_⟩
  · have hkeep : ∀ h e, OneLive h →
        (OneLive (h ++ [e]) ↔ ∀ p, e = .trigger p → ¬ Overtaken h) := by
      intro h e hone
      rw [oneLive_iff, after_concat, onlyNewest_step_iff (idle_or_isWaiting h)
        ((oneLive_iff h).mp hone), forgets_iff]
    have hstart : OneLive [] := (oneLive_iff []).mpr fun n hn => nomatch hn
    rw [forall_prefix_iff hstart hkeep]
    exact ⟨fun hall h p hp => hall h _ hp p rfl, fun hall h e hp p he => hall h p (he ▸ hp)⟩
  · obtain ⟨hidle, older, hnext, hlive⟩ := (forgets_iff h).mpr hovertaken
    have hstarted : started h = older + 1 := (next_after h).symm.trans hnext
    have hwaiting := isWaiting_trigger (after h) p
    have hmem : older ∈ (after (h ++ [.trigger p])).timers.live := by
      rw [after_concat, mem_live_iff, isLive_trigger_iff, hidle]
      exact Or.inl ⟨nofun, hlive⟩
    refine ⟨older, hstarted ▸ Nat.lt_succ_self older, hmem, ?_, ?_⟩
    · rw [after_concat, mem_live_iff, ← next_after]
      exact hwaiting.live
    · rw [after_concat] at hmem ⊢
      refine ⟨_, mem_pending_trigger (after h) p, ?_⟩
      rcases fire_of_lt (mem_live_iff.mp hmem).lt with ⟨hnone, -⟩ | ⟨-, heq⟩
      · exact absurd hnone hwaiting.pending_ne
      · exact congrArg history heq

/-- A path that arrives behind an overtaken timer leaves two timers live, and the older one delivers
it. -/
theorem two_live_timers :
    let a : Path := .ofText ['a']
    let b : Path := .ofText ['b']
    let c : Path := .ofText ['c']
    let s := after [.trigger a, .trigger b, .fire 0, .trigger c]
    s.timers.live = [1, 2] ∧ s.Delivers 1 c := by
  intro a b c s
  exact ⟨by decide, [c], List.mem_singleton_self c, rfl⟩

end Debouncing

end DesignTokens
