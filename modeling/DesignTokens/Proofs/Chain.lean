import Mathlib.Data.List.Basic

/-!
# Chains of steps

A function that lists the successors of each thing makes a graph.  `Chain` counts the steps of its
paths.  Where a cycle is reached, there are chains of any length (`Chain.exists_of_cycle`); whether
no chain from a thing is longer than a bound can be decided by going along all of them
(`isShallow_iff`).
-/

namespace DesignTokens

variable {α : Type} {next : α → List α} {k m n : Nat} {a b c : α}

/-- A number of steps leads from one thing to another. -/
inductive Chain (next : α → List α) : Nat → α → α → Prop
  /-- No step leads from a thing to itself. -/
  | nil (a : α) : Chain next 0 a a
  /-- A step may come first. -/
  | cons {n : Nat} {a b c : α} (h : b ∈ next a) (hrest : Chain next n b c) :
      Chain next (n + 1) a c

namespace Chain

/-- Chains are put together. -/
lemma trans (h : Chain next m a b) (hb : Chain next n b c) : Chain next (n + m) a c := by
  induction h with
  | nil a => exact hb
  | cons h _ ih => exact (ih hb).cons h

/-- A chain can be cut after any number of its steps. -/
lemma split (h : Chain next (m + n) a c) : ∃ b, Chain next m a b ∧ Chain next n b c := by
  induction m generalizing a with
  | zero => exact ⟨a, .nil a, by rwa [Nat.zero_add] at h⟩
  | succ m ih =>
    rw [Nat.add_right_comm] at h
    cases h with
    | cons h hrest =>
      obtain ⟨b, hb, hc⟩ := ih hrest
      exact ⟨b, hb.cons h, hc⟩

/-- A cycle can be gone through any number of times. -/
lemma again (h : Chain next n a a) (k : Nat) : Chain next (k * n) a a := by
  induction k with
  | zero =>
    rw [Nat.zero_mul]
    exact .nil a
  | succ k ih =>
    rw [Nat.succ_mul, Nat.add_comm]
    exact ih.trans h

/-- From where a cycle is reached, there is one more step at the end of a chain of any length. -/
lemma exists_of_cycle (h : Chain next k a b) (hcycle : Chain next (n + 1) b b) (m : Nat) :
    ∃ c d, Chain next m a c ∧ d ∈ next c := by
  have hlong := h.trans (hcycle.again (m + 1))
  obtain ⟨rest, hrest⟩ : ∃ rest, (m + 1) * (n + 1) + k = m + (rest + 1) :=
    ⟨m * n + n + k, by rw [Nat.succ_mul, Nat.mul_succ]; omega⟩
  rw [hrest] at hlong
  obtain ⟨c, hc, hstep⟩ := hlong.split
  cases hstep with
  | cons hstep _ => exact ⟨c, _, hc, hstep⟩

end Chain

/-! ### Bounds -/

/-- No chain from a thing is longer than a bound. -/
def IsShallow (next : α → List α) (bound : Nat) (a : α) : Prop :=
  ∀ n b, Chain next n a b → n ≤ bound

/-- Go along all chains from a thing, as far as a bound allows. -/
def isShallow (next : α → List α) : Nat → α → Bool
  | 0, a => (next a).isEmpty
  | bound + 1, a => (next a).all (isShallow next bound)

/-- What one step leads to is shallow with one step less. -/
lemma IsShallow.of_mem (h : IsShallow next (n + 1) a) (hb : b ∈ next a) : IsShallow next n b :=
  fun k c hc => Nat.le_of_succ_le_succ (h (k + 1) c (hc.cons hb))

/-- From a thing of depth zero no step leads on. -/
lemma IsShallow.eq_nil (h : IsShallow next 0 a) : next a = [] := by
  rw [List.eq_nil_iff_forall_not_mem]
  intro b hb
  exact absurd (h 1 b ((Chain.nil b).cons hb)) (by decide)

/-- A thing without successors is shallow for every bound. -/
lemma isShallow_of_nil (h : next a = []) : IsShallow next n a := by
  intro k b hk
  cases hk with
  | nil => exact Nat.zero_le n
  | cons hb _ =>
    rw [h] at hb
    cases hb

/-- Going along all chains decides whether one is longer than the bound. -/
lemma isShallow_iff : isShallow next n a = true ↔ IsShallow next n a := by
  induction n generalizing a with
  | zero =>
    rw [isShallow, List.isEmpty_iff]
    exact ⟨isShallow_of_nil, IsShallow.eq_nil⟩
  | succ n ih =>
    rw [isShallow, List.all_eq_true]
    refine ⟨?_, fun h b hb => ih.mpr (h.of_mem hb)⟩
    intro hall k b hk
    cases hk with
    | nil => exact Nat.zero_le _
    | cons hb hrest => exact Nat.succ_le_succ (ih.mp (hall _ hb) _ _ hrest)

instance (next : α → List α) (n : Nat) (a : α) : Decidable (IsShallow next n a) :=
  decidable_of_iff _ isShallow_iff

/-- What can be reached, as far as a bound allows. -/
def reached (next : α → List α) : Nat → α → List α
  | 0, a => [a]
  | bound + 1, a => a :: (next a).flatMap (reached next bound)

/-- What a chain within the bound leads to is among the things that are reached. -/
lemma Chain.mem_reached (h : Chain next k a b) (hk : k ≤ n) : b ∈ reached next n a := by
  induction h generalizing n with
  | nil a => cases n <;> exact List.mem_cons_self
  | @cons k a b c hb _ ih =>
    obtain ⟨m, rfl⟩ := Nat.exists_eq_add_of_le' (Nat.lt_of_lt_of_le (Nat.succ_pos k) hk)
    refine List.mem_cons_of_mem _ (List.mem_flatMap.mpr ⟨b, hb, ih ?_⟩)
    exact Nat.le_of_succ_le_succ hk

/-- Where chains are bounded, nothing leads back to itself. -/
lemma IsShallow.not_cycle (h : IsShallow next m a) (n : Nat) : ¬ Chain next (n + 1) a a := by
  intro hcycle
  obtain ⟨c, d, hc, hd⟩ := (Chain.nil a).exists_of_cycle hcycle m
  exact absurd (h (1 + m) d (hc.trans ((Chain.nil d).cons hd))) (by omega)

end DesignTokens
