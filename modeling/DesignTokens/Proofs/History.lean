import Mathlib.Data.List.Induction
import Mathlib.Data.List.Infix

/-!
# Histories

A run is described by the list of what happened in it, oldest first.  What a store holds at the
end often depends only on what happened since it was emptied last, and for a single key only on
the last thing that has a word on it.  `sinceLast` and `lastSome?` are these two readings
of a history; each has one lemma that says how one more event changes it.  So has the list of the
different things that are named in a history (`eraseDups_concat`).  What is true at every moment of
a history is told from its single events (`forall_prefix_iff`).
-/

namespace DesignTokens

namespace History

variable {α β : Type}

/-- What happened behind the last event of a kind. -/
def sinceLast (kind : α → Bool) (h : List α) : List α :=
  (h.reverse.takeWhile fun e => !kind e).reverse

/-- What the last event has to say that has a word at all. -/
def lastSome? (word? : α → Option β) (h : List α) : Option β :=
  h.reverse.findSome? word?

/-- One more event is the newest one, unless nothing counts that happened before. -/
lemma sinceLast_concat (kind : α → Bool) (h : List α) (e : α) :
    sinceLast kind (h ++ [e]) = if kind e then [] else sinceLast kind h ++ [e] := by
  cases he : kind e <;> simp [sinceLast, he]

/-- One more event has the last word if it has a word. -/
lemma lastSome?_concat (word? : α → Option β) (h : List α) (e : α) :
    lastSome? word? (h ++ [e]) = (word? e).or (lastSome? word? h) := by
  cases he : word? e <;> simp [lastSome?, he]

/-- One more entry is a new one at the end, unless there is one like it. -/
lemma eraseDups_concat [DecidableEq α] (l : List α) (a : α) :
    (l ++ [a]).eraseDups = if a ∈ l then l.eraseDups else l.eraseDups ++ [a] := by
  have hnew : [a].removeAll l = if a ∈ l then [] else [a] := by
    rw [List.removeAll, List.filter_singleton]
    by_cases h : a ∈ l <;> simp only [List.elem_eq_mem, h] <;> rfl
  rw [List.eraseDups_append, hnew]
  by_cases h : a ∈ l
  · rw [if_pos h, if_pos h, List.eraseDups_nil, List.append_nil]
  · rw [if_neg h, if_neg h]
    rfl

/-- What stands in a history with one more event is that event, or it stood there before. -/
lemma cases_of_concat {h before after : List α} {e x : α} (heq : h ++ [e] = before ++ x :: after) :
    (h = before ∧ e = x ∧ after = []) ∨ ∃ rest, after = rest ++ [e] ∧ h = before ++ x :: rest := by
  rcases List.eq_nil_or_concat after with rfl | ⟨rest, last, rfl⟩
  · obtain ⟨hbefore, hlast⟩ := List.append_inj' heq rfl
    exact Or.inl ⟨hbefore, (List.cons.inj hlast).1, rfl⟩
  · rw [List.concat_eq_append, ← List.cons_append, ← List.append_assoc] at heq
    obtain ⟨hbefore, hlast⟩ := List.append_inj' heq rfl
    refine Or.inr ⟨rest, ?_, hbefore⟩
    rw [List.concat_eq_append, hlast]

/-- Something is true at every moment of a history exactly if every event keeps it, whatever it is
that an event has to fulfil in order to keep it. -/
lemma forall_prefix_iff {P : List α → Prop} {Q : List α → α → Prop} (hnil : P [])
    (hkeep : ∀ h e, P h → (P (h ++ [e]) ↔ Q h e)) (l : List α) :
    (∀ h, h <+: l → P h) ↔ ∀ h e, h ++ [e] <+: l → Q h e := by
  induction l using List.reverseRecOn with
  | nil =>
    refine ⟨fun _ h e hp => ?_, fun _ h hp => List.prefix_nil.mp hp ▸ hnil⟩
    exact absurd (List.prefix_nil.mp hp) (List.append_ne_nil_of_right_ne_nil h (by simp))
  | append_singleton l e ih =>
    have hlast : (∀ h e', h ++ [e'] = l ++ [e] → Q h e') ↔ Q l e := by
      refine ⟨fun hall => hall l e rfl, fun hq h e' heq => ?_⟩
      obtain ⟨rfl, he⟩ := List.append_inj' heq rfl
      cases he
      exact hq
    simp only [List.prefix_concat_iff, or_imp, forall_and, forall_eq, ih, hlast]
    refine and_congr_left fun hbefore => hkeep l e ?_
    exact ih.mpr hbefore l (List.prefix_refl l)

end History

end DesignTokens
