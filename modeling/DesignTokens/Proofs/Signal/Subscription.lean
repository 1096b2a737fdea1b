import Mathlib.Data.List.Basic
import DesignTokens.Proofs.History
import DesignTokens.Signal

/-!
# Subscriptions of a signal

Connecting a listener hands out a function that ends the subscription.  The signal keeps no
subscriptions, though: its list holds the bare listeners, and ending a subscription removes the
first occurrence of its listener.  Here the list is compared with the account that a subscriber
has in mind, in which every subscription is an entry of its own: it stands from its connection
until its own function is called or everything is cleared (`standing`).

The run is any program that uses the signal.  Besides connecting, unsubscribing and clearing it
may fire, and then each listener that is called does things of its own, which may again be any of
these.  What the list holds depends on the acts alone, in the order in which they happen, however
they are nested in firings (`signal_applyAll`).  Along this order the list and the account agree as
long as no call of an unsubscribe function misses its subscription (`Misses`), and they part at
the first one that does (`listeners_eq_standing_iff`).
-/

namespace DesignTokens

namespace Signal

variable {α : Type}

/-! ### Programs that use a signal -/

/-- One act on the list of a signal. -/
inductive Act (α : Type)
  /-- A listener is connected. -/
  | connect (listener : α)
  /-- The function that ends the subscription with a number is called. -/
  | unsubscribe (number : Nat)
  /-- All listeners are removed. -/
  | clear
  deriving Repr, DecidableEq

/-- The listeners of all subscriptions that were ever made; the number of a subscription is its
place in this list. -/
def connected (acts : List (Act α)) : List α :=
  acts.filterMap fun
    | .connect listener => some listener
    | .unsubscribe _ | .clear => none

/-- What an act does to the signal, after the subscriptions of these listeners were made. -/
def Act.apply [DecidableEq α] (made : List α) : Act α → Signal α → Signal α
  | .connect listener, s => s.connect listener
  | .unsubscribe number, s =>
      match made[number]? with
      | some listener => s.disconnect listener
      | none => s
  | .clear, s => s.clear

/-- A signal in use, with what has happened to it. -/
structure Usage (α : Type) where
  /-- The signal. -/
  signal : Signal α
  /-- The acts on its list, oldest first. -/
  acts : List (Act α)
  /-- The listeners that were called, in the order of their calls. -/
  calls : List α
  /-- What was noted. -/
  journal : List LogEntry

/-- What a program does with a signal: an act, or a firing, in which every listener that is called
ends in its own way and does things of its own, as it finds the signal. -/
inductive Event (α : Type)
  | act (a : Act α)
  | fire (reply : α → Usage α → Reply) (response : α → Usage α → List (Event α))

namespace Usage

/-- The start: a signal without listeners. -/
def start (name : String) : Usage α :=
  ⟨silent name, [], [], []⟩

/-- Perform an act. -/
def perform [DecidableEq α] (u : Usage α) (a : Act α) : Usage α :=
  { u with signal := a.apply (connected u.acts) u.signal, acts := u.acts ++ [a] }

/-- A listener is called. -/
def called (u : Usage α) (listener : α) : Usage α :=
  { u with calls := u.calls ++ [listener] }

/-- Something is noted. -/
def note (entry : LogEntry) (u : Usage α) : Usage α :=
  { u with journal := u.journal ++ [entry] }

end Usage

mutual

/-- What one thing that a program does leads to. -/
def Event.apply [DecidableEq α] : Event α → Usage α → Usage α
  | .act a, u => u.perform a
  | .fire reply response, u =>
      Signal.fire Usage.signal
        (fun listener u =>
          (reply listener (u.called listener),
            Event.applyAll (response listener (u.called listener)) (u.called listener)))
        Usage.note u
  termination_by structural e => e

/-- What several things lead to, one after another. -/
def Event.applyAll [DecidableEq α] : List (Event α) → Usage α → Usage α
  | [], u => u
  | e :: rest, u => Event.applyAll rest (e.apply u)
  termination_by structural es => es

end

/-! ### The acts alone decide -/

/-- The signal after some acts, none of them in a firing. -/
def after [DecidableEq α] (name : String) (acts : List (Act α)) : Signal α :=
  (acts.foldl Usage.perform (Usage.start name)).signal

/-- Performing acts records them. -/
lemma acts_foldl_perform [DecidableEq α] (acts : List (Act α)) (u : Usage α) :
    (acts.foldl Usage.perform u).acts = u.acts ++ acts := by
  induction acts generalizing u with
  | nil => simp
  | cons a rest ih => rw [List.foldl_cons, ih, Usage.perform, List.append_assoc]; rfl

/-- One more act is applied to what the others led to. -/
lemma after_concat [DecidableEq α] (name : String) (acts : List (Act α)) (a : Act α) :
    after name (acts ++ [a]) = a.apply (connected acts) (after name acts) := by
  have hacts : (acts.foldl Usage.perform (Usage.start name)).acts = acts := by
    rw [acts_foldl_perform]; rfl
  rw [after, List.foldl_concat, Usage.perform, hacts, after]

/-- What a property of usages needs to survive everything that a program does: the acts keep it,
and so do calls and notes by themselves. -/
lemma apply_induction [DecidableEq α] {P : Usage α → Prop}
    (hperform : ∀ u a, P u → P (u.perform a)) (hcalled : ∀ u l, P u → P (u.called l))
    (hnote : ∀ u entry, P u → P (u.note entry)) (e : Event α) :
    ∀ u, P u → P (e.apply u) := by
  -- A firing is entered through its responses, which are lists of events again.
  induction e using Event.rec (motive_2 := fun es => ∀ u, P u → P (Event.applyAll es u)) with
  | act a => exact fun u h => hperform u a h
  | fire reply response ih =>
    intro u h
    rw [Event.apply, Signal.fire]
    generalize u.signal.listeners = snapshot
    generalize u.signal.failureEntry = entry
    induction snapshot generalizing u with
    | nil => exact h
    | cons l rest ihrest =>
      have hl := ih l (u.called l) _ (hcalled u l h)
      rw [deliver]
      cases reply l (u.called l) with
      | done => exact ihrest _ hl
      | failed => exact ihrest _ (hnote _ entry hl)
  | nil =>
    rename_i u h
    exact h
  | cons e rest ihe ihrest =>
    rename_i u h
    exact ihrest _ (ihe u h)

/-- However the acts are nested in firings, the signal is as their order makes it. -/
lemma signal_applyAll [DecidableEq α] (name : String) (es : List (Event α)) (u : Usage α)
    (hu : u.signal = after name u.acts) :
    (Event.applyAll es u).signal = after name (Event.applyAll es u).acts := by
  induction es generalizing u with
  | nil => exact hu
  | cons e rest ih =>
    refine ih _ (apply_induction (P := fun v => v.signal = after name v.acts) ?_
      (fun _ _ h => h) (fun _ _ h => h) e u hu)
    intro v a hv
    rw [Usage.perform, after_concat, ← hv]

/-! ### The account of a subscriber -/

section Account

variable [DecidableEq α]

/-- The subscriptions that stand after some acts, with their numbers: those that were made, with
neither a clearing nor a call of their own function behind that.  The numbers begin at `first`. -/
def standingFrom (first : ℕ) : List (Act α) → List (ℕ × α)
  | [] => []
  | .connect listener :: rest =>
      if .clear ∈ rest ∨ .unsubscribe first ∈ rest then standingFrom (first + 1) rest
      else (first, listener) :: standingFrom (first + 1) rest
  | .unsubscribe _ :: rest | .clear :: rest => standingFrom first rest

/-- The subscriptions that stand after some acts, with their numbers. -/
def standing (acts : List (Act α)) : List (ℕ × α) :=
  standingFrom 0 acts

/-- The call of an unsubscribe function misses its subscription: there is another one of the same
listener, and if its own stands at all, then so does a subscription of a different listener
between the two. -/
def Misses (acts : List (Act α)) (n : ℕ) : Prop :=
  ∃ l, (connected acts)[n]? = some l ∧ ∃ m, m ≠ n ∧ (m, l) ∈ standing acts ∧
    ((n, l) ∈ standing acts → ∃ k l', m < k ∧ k < n ∧ (k, l') ∈ standing acts ∧ l' ≠ l)

/-- A subscription that stands was made, and has the number of its place. -/
lemma connected_of_mem_standingFrom {first : ℕ} {acts : List (Act α)} {p : ℕ × α}
    (hp : p ∈ standingFrom first acts) :
    first ≤ p.1 ∧ (connected acts)[p.1 - first]? = some p.2 := by
  induction acts generalizing first with
  | nil => cases hp
  | cons a rest ih =>
    cases a with
    | connect l =>
      have hcases : p = (first, l) ∨ p ∈ standingFrom (first + 1) rest := by
        rw [standingFrom] at hp
        split at hp
        · exact Or.inr hp
        · exact List.mem_cons.mp hp
      rcases hcases with rfl | hp
      · simp [connected]
      · obtain ⟨hle, hget⟩ := ih hp
        refine ⟨by omega, ?_⟩
        have hsub : p.1 - first = (p.1 - (first + 1)) + 1 := by omega
        rw [hsub]
        simpa [connected] using hget
    | unsubscribe n => exact ih hp
    | clear => exact ih hp

/-- A standing subscription is the one of its number. -/
lemma connected_of_mem_standing {acts : List (Act α)} {n : ℕ} {l : α}
    (h : (n, l) ∈ standing acts) : (connected acts)[n]? = some l :=
  (connected_of_mem_standingFrom h).2

/-- The standing subscriptions are in the order of their numbers. -/
lemma pairwise_standingFrom (first : ℕ) (acts : List (Act α)) :
    (standingFrom first acts).Pairwise fun p q => p.1 < q.1 := by
  induction acts generalizing first with
  | nil => exact List.Pairwise.nil
  | cons a rest ih =>
    cases a with
    | connect l =>
      rw [standingFrom]
      split
      · exact ih _
      · refine List.pairwise_cons.mpr ⟨fun q hq => ?_, ih _⟩
        have := (connected_of_mem_standingFrom hq).1
        show first < q.1
        omega
    | unsubscribe n => exact ih _
    | clear => exact ih _

/-- A connection adds a subscription with the next number. -/
lemma standingFrom_concat_connect (first : ℕ) (acts : List (Act α)) (l : α) :
    standingFrom first (acts ++ [.connect l]) =
      standingFrom first acts ++ [(first + (connected acts).length, l)] := by
  induction acts generalizing first with
  | nil => simp [standingFrom, connected]
  | cons a rest ih =>
    cases a with
    | connect l' =>
      have hnum : first + (connected (.connect l' :: rest)).length
          = first + 1 + (connected rest).length := by
        simp only [connected, List.filterMap_cons, List.length_cons]
        omega
      rw [List.cons_append, standingFrom, standingFrom, ih, hnum]
      simp only [List.mem_append, List.mem_singleton, reduceCtorEq, or_false]
      split <;> rfl
    | unsubscribe n => exact ih first
    | clear => exact ih first

/-- The call of an unsubscribe function ends the subscription with its number. -/
lemma standingFrom_concat_unsubscribe (first : ℕ) (acts : List (Act α)) (n : ℕ) :
    standingFrom first (acts ++ [.unsubscribe n]) =
      (standingFrom first acts).filter fun p => p.1 ≠ n := by
  induction acts generalizing first with
  | nil => rfl
  | cons a rest ih =>
    cases a with
    | connect l =>
      rw [List.cons_append, standingFrom, standingFrom, ih]
      simp only [List.mem_append, List.mem_singleton, reduceCtorEq, or_false,
        Act.unsubscribe.injEq]
      by_cases hgone : .clear ∈ rest ∨ .unsubscribe first ∈ rest
      · rw [if_pos hgone, if_pos (by tauto)]
      · by_cases hn : first = n
        · rw [if_neg hgone, if_pos (by tauto), List.filter_cons_of_neg (by simpa using hn)]
        · rw [if_neg hgone, if_neg (by tauto), List.filter_cons_of_pos (by simpa using hn)]
    | unsubscribe m => exact ih first
    | clear => exact ih first

/-- A clearing ends all subscriptions. -/
lemma standingFrom_concat_clear (first : ℕ) (acts : List (Act α)) :
    standingFrom first (acts ++ [.clear]) = [] := by
  induction acts generalizing first with
  | nil => rfl
  | cons a rest ih =>
    cases a with
    | connect l =>
      rw [List.cons_append, standingFrom, if_pos (by simp)]
      exact ih _
    | unsubscribe m => exact ih first
    | clear => exact ih first

end Account

/-! ### Removing a listener, or its subscription -/

/-- Something may be moved from one end of a list to the other only in a list of its copies. -/
lemma concat_eq_cons_iff (xs : List α) (a : α) : xs ++ [a] = a :: xs ↔ ∀ x ∈ xs, x = a := by
  induction xs with
  | nil => simp
  | cons x rest ih =>
    rw [List.cons_append, List.cons.injEq, List.forall_mem_cons]
    refine and_congr_right ?_
    rintro rfl
    exact ih

/-- Removing the first copy of the last entry removes as much as removing the last entry does only
if nothing different stands behind a copy. -/
lemma erase_concat_eq_iff [DecidableEq α] (xs : List α) (a : α) :
    (xs ++ [a]).erase a = xs ↔ xs.Pairwise fun x y => x = a → y = a := by
  induction xs with
  | nil => simp
  | cons x rest ih =>
    rw [List.cons_append, List.pairwise_cons]
    by_cases hx : x = a
    · subst hx
      rw [List.erase_cons_head, concat_eq_cons_iff]
      refine ⟨fun h => ⟨fun y hy _ => h y hy, ?_⟩, fun h y hy => h.1 y hy rfl⟩
      exact List.pairwise_of_forall_mem_list fun _ _ y hy _ => h y hy
    · rw [List.erase_cons_tail (by simpa using hx), List.cons.injEq, ih]
      exact ⟨fun h => ⟨fun _ _ h' => absurd h' hx, h.2⟩, fun h => ⟨rfl, h.2⟩⟩

/-- In a list that is sorted by numbers, what holds of an entry and a later one is what holds of
one with a smaller and one with a greater number. -/
lemma pairwise_iff_of_sorted {R : ℕ × α → ℕ × α → Prop} {entries : List (ℕ × α)}
    (hsorted : entries.Pairwise fun p q => p.1 < q.1) :
    entries.Pairwise R ↔ ∀ p ∈ entries, ∀ q ∈ entries, p.1 < q.1 → R p q := by
  refine ⟨fun h => ?_, fun h => hsorted.imp_of_mem fun hp hq hlt => h _ hp _ hq hlt⟩
  have hup : entries.Pairwise fun p q => p.1 < q.1 → R p q :=
    h.imp fun {p q} hpq (_ : p.1 < q.1) => hpq
  have hdown : entries.Pairwise (flip fun p q => p.1 < q.1 → R p q) :=
    hsorted.imp fun hlt hgt => absurd hgt (Nat.lt_asymm hlt)
  intro p hp q hq
  exact List.Pairwise.forall_of_forall_of_flip
    (fun x _ hx => absurd hx (Nat.lt_irrefl _)) hup hdown hp hq

/-- In a list of numbered listeners, removing the first occurrence of a listener and removing the
entry with a number come to the same thing unless the listener has another entry, which, if the
number occurs, stands before a different listener in front of it. -/
lemma map_erase_eq_iff [DecidableEq α] {entries : List (ℕ × α)} {n : ℕ} {l : α}
    (hsorted : entries.Pairwise fun p q => p.1 < q.1)
    (hown : ∀ x, (n, x) ∈ entries → x = l) :
    (entries.map Prod.snd).erase l = (entries.filter fun p => p.1 ≠ n).map Prod.snd ↔
      ¬ ∃ m, m ≠ n ∧ (m, l) ∈ entries ∧
        ((n, l) ∈ entries → ∃ k l', m < k ∧ k < n ∧ (k, l') ∈ entries ∧ l' ≠ l) := by
  by_cases hn : (n, l) ∈ entries
  · -- What stands in front of the entry are the entries with smaller numbers.
    obtain ⟨front, back, rfl⟩ := List.append_of_mem hn
    obtain ⟨hfront, hback, hcross⟩ := List.pairwise_append.mp hsorted
    have hlt : ∀ p ∈ front, p.1 < n := fun p hp => hcross p hp _ List.mem_cons_self
    have hgt : ∀ p ∈ back, n < p.1 := (List.pairwise_cons.mp hback).1
    have hmem : ∀ k x, k < n → ((k, x) ∈ front ++ (n, l) :: back ↔ (k, x) ∈ front) := by
      intro k x hk
      rw [List.mem_append, List.mem_cons]
      refine ⟨?_, Or.inl⟩
      rintro (h | h | h)
      · exact h
      · have hkn : k = n := congrArg Prod.fst h
        omega
      · have hnk : n < k := hgt _ h
        omega
    have hfilter : (front ++ (n, l) :: back).filter (fun p => p.1 ≠ n) = front ++ back := by
      rw [List.filter_append, List.filter_cons_of_neg (by simp),
        List.filter_eq_self.mpr fun p hp => by simpa using (hlt p hp).ne,
        List.filter_eq_self.mpr fun p hp => by simpa using (hgt p hp).ne']
    have herase : ((front ++ (n, l) :: back).map Prod.snd).erase l =
        (front.map Prod.snd ++ [l]).erase l ++ back.map Prod.snd := by
      rw [← List.erase_append_left _ (by simp), List.map_append, List.map_cons,
        List.append_assoc, List.singleton_append]
    rw [hfilter, herase, List.map_append, List.append_cancel_right_eq, erase_concat_eq_iff,
      List.pairwise_map, pairwise_iff_of_sorted hfront]
    constructor
    · rintro h ⟨m, hne, hm, hbetween⟩
      obtain ⟨k, l', hmk, hkn, hk, hl'⟩ := hbetween hn
      exact hl' (h _ ((hmem m l (by omega)).mp hm) _ ((hmem k l' hkn).mp hk) hmk rfl)
    · rintro h ⟨m, x⟩ hm ⟨k, y⟩ hk hmk rfl
      by_contra hy
      have hkn : k < n := hlt _ hk
      have hmn : m < n := hlt _ hm
      exact h ⟨m, by omega, (hmem m x hmn).mpr hm, fun _ => ⟨k, y, hmk, hkn,
        (hmem k y hkn).mpr hk, hy⟩⟩
  · have hfree : ∀ x, (n, x) ∉ entries := fun x hx => hn (hown x hx ▸ hx)
    have hfilter : entries.filter (fun p => p.1 ≠ n) = entries :=
      List.filter_eq_self.mpr fun p hp => decide_eq_true fun hpn => hfree p.2 (hpn ▸ hp)
    rw [hfilter, List.erase_eq_self_iff]
    refine not_congr ⟨fun h => ?_, ?_⟩
    · obtain ⟨⟨m, x⟩, hm, rfl⟩ := List.mem_map.mp h
      exact ⟨m, fun hmn => hfree x (hmn ▸ hm), hm, fun h => absurd h hn⟩
    · rintro ⟨m, -, hm, -⟩
      exact List.mem_map_of_mem hm

/-! ### The list and the account -/

/-- One more act keeps the list at what the account says, or does not, as it is the call of an
unsubscribe function that misses its subscription. -/
lemma listeners_concat_iff [DecidableEq α] {name : String} {acts : List (Act α)} (a : Act α)
    (h : (after name acts).listeners = (standing acts).map Prod.snd) :
    (after name (acts ++ [a])).listeners = (standing (acts ++ [a])).map Prod.snd ↔
      ∀ n, a = .unsubscribe n → ¬ Misses acts n := by
  rw [after_concat]
  cases a with
  | connect l =>
    rw [standing, standingFrom_concat_connect, List.map_append, Act.apply, Signal.connect, h]
    simp [standing]
  | clear => simp [standing, standingFrom_concat_clear, Act.apply, Signal.clear]
  | unsubscribe n =>
    have hiff : (after name (acts ++ [.unsubscribe n])).listeners =
        (standing (acts ++ [.unsubscribe n])).map Prod.snd ↔ ¬ Misses acts n := by
      rw [after_concat, standing, standingFrom_concat_unsubscribe, ← standing, Act.apply]
      cases hget : (connected acts)[n]? with
      | none =>
        have hfree : (standing acts).filter (fun p => p.1 ≠ n) = standing acts :=
          List.filter_eq_self.mpr fun p hp => decide_eq_true fun hpn => by
            rw [← hpn, connected_of_mem_standing hp] at hget
            cases hget
        simp only [hfree, h, Misses, hget, reduceCtorEq, false_and, exists_false, not_false_eq_true]
      | some l =>
        show (after name acts).listeners.erase l = _ ↔ _
        have hsorted : (standing acts).Pairwise fun p q => p.1 < q.1 := pairwise_standingFrom 0 acts
        rw [h, map_erase_eq_iff hsorted
          fun x hx => Option.some.inj ((connected_of_mem_standing hx).symm.trans hget)]
        simp only [Misses, hget, Option.some.injEq, exists_eq_left']
    rw [← after_concat, hiff]
    exact ⟨fun hm n' hn => Act.unsubscribe.inj hn ▸ hm, fun hall => hall n rfl⟩

/-- Along some acts the list is always what the account says exactly if no call of an unsubscribe
function among them misses its subscription. -/
lemma listeners_after_iff [DecidableEq α] (name : String) (acts : List (Act α)) :
    (∀ h, h <+: acts → (after name h).listeners = (standing h).map Prod.snd) ↔
      ∀ h n, h ++ [.unsubscribe n] <+: acts → ¬ Misses h n := by
  refine (History.forall_prefix_iff
    (P := fun h => (after name h).listeners = (standing h).map Prod.snd) rfl
    (fun _ a hh => listeners_concat_iff a hh) acts).trans ?_
  exact ⟨fun hall h n hp => hall h _ hp n rfl, fun hall h a hp n ha => hall h n (ha ▸ hp)⟩

/-- Whatever a program does with a signal, its list is what the order of the acts makes it; and at
every moment the list holds exactly the listeners of the standing subscriptions, in the order of
their connection, if and only if no call of an unsubscribe function misses its subscription. -/
theorem listeners_eq_standing_iff [DecidableEq α] (name : String) (es : List (Event α)) :
    let u := Event.applyAll es (Usage.start name)
    u.signal = after name u.acts ∧
      ((∀ h, h <+: u.acts → (after name h).listeners = (standing h).map Prod.snd) ↔
        ∀ h n, h ++ [.unsubscribe n] <+: u.acts → ¬ Misses h n) :=
  ⟨signal_applyAll name es _ rfl, listeners_after_iff name _⟩

/-- No call of an unsubscribe function misses its subscription if no listener is connected twice. -/
theorem not_misses_of_nodup [DecidableEq α] {acts : List (Act α)} (h : (connected acts).Nodup)
    (n : ℕ) : ¬ Misses acts n := by
  rintro ⟨l, hn, m, hne, hm, -⟩
  obtain ⟨hlt, -⟩ := List.getElem?_eq_some_iff.mp hn
  exact hne ((List.getElem?_inj hlt h).mp (hn.trans (connected_of_mem_standing hm).symm)).symm

/-- A listener is connected twice and one of the two functions is called twice: the second call
removes the other subscription. -/
theorem second_unsubscribe_removes_another :
    let u := Event.applyAll
      [.act (.connect "a"), .act (.connect "a"), .act (.unsubscribe 1), .act (.unsubscribe 1)]
      (Usage.start "tokens changed")
    u.signal.listeners = [] ∧ (standing u.acts).map Prod.snd = ["a"] := by
  decide

end Signal

end DesignTokens
