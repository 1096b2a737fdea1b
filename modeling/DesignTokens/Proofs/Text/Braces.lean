import DesignTokens.Glob.Braces
import DesignTokens.Proofs.Text.Split
import Mathlib.Data.List.TakeWhile
import Mathlib.Order.Basic

/-!
# Balanced braces

The braces of a text are balanced if each one that is opened is closed behind it, and the other way
round.  A text that closes an open brace does so behind a balanced text (`exists_of_closesAll`).
-/

namespace DesignTokens

namespace Text

open Glob (isBrace)

variable {t : Text} {opened : ℕ}

/-! ### Texts without braces -/

/-- There is no brace in the text. -/
def Braceless (t : Text) : Prop :=
  ∀ c ∈ t, isBrace c = false

instance (t : Text) : Decidable (Braceless t) :=
  inferInstanceAs (Decidable (∀ c ∈ t, isBrace c = false))

/-- Two texts without braces have none together. -/
lemma Braceless.append {s : Text} (hs : Braceless s) (ht : Braceless t) : Braceless (s ++ t) :=
  List.forall_mem_append.mpr ⟨hs, ht⟩

/-- No brace is in a text without braces. -/
lemma Braceless.not_mem {c : Char} (h : Braceless t) (hc : isBrace c = true) : c ∉ t := by
  intro hmem
  rw [h c hmem] at hc
  cases hc

/-- Nothing is left of a text without braces when only braces are kept. -/
lemma Braceless.filter_eq (h : Braceless t) : t.filter isBrace = [] := by
  rw [List.filter_eq_nil_iff]
  intro c hc
  rw [h c hc]
  exact Bool.false_ne_true

/-- A text without braces opens none. -/
lemma Braceless.count_eq (h : Braceless t) : t.count '\x7b' = 0 :=
  List.count_eq_zero.mpr (h.not_mem rfl)

/-- A text has no brace, or a first one. -/
lemma braceless_or_exists (t : Text) :
    Braceless t ∨ ∃ m d y, t = m ++ d :: y ∧ Braceless m ∧ isBrace d = true := by
  induction t with
  | nil => exact Or.inl (List.forall_mem_nil _)
  | cons c t ih =>
    cases hc : isBrace c with
    | true => exact Or.inr ⟨[], c, t, rfl, List.forall_mem_nil _, hc⟩
    | false =>
      rcases ih with h | ⟨m, d, y, rfl, hm, hd⟩
      · exact Or.inl (List.forall_mem_cons.mpr ⟨hc, h⟩)
      · exact Or.inr ⟨c :: m, d, y, rfl, List.forall_mem_cons.mpr ⟨hc, hm⟩, hd⟩

/-! ### Balanced braces -/

/-- Does a text close the braces that are open, and those that it opens, and no others? -/
def closesAll : (opened : ℕ) → Text → Bool
  | opened, [] => opened == 0
  | opened, c :: t =>
      if c = '\x7b' then closesAll (opened + 1) t
      else if c = '\x7d' then opened != 0 && closesAll (opened - 1) t
      else closesAll opened t

/-- Each brace that is opened is closed behind it, and the other way round. -/
def Balanced (t : Text) : Prop :=
  closesAll 0 t

instance (t : Text) : Decidable (Balanced t) :=
  inferInstanceAs (Decidable (_ = true))

/-- An opening brace has to be closed as well. -/
lemma closesAll_open (opened : ℕ) (t : Text) :
    closesAll opened ('\x7b' :: t) = closesAll (opened + 1) t := by
  rw [closesAll, if_pos rfl]

/-- A closing brace closes one that is open. -/
lemma closesAll_close (opened : ℕ) (t : Text) :
    closesAll (opened + 1) ('\x7d' :: t) = closesAll opened t := by
  rw [closesAll, if_neg (by decide), if_pos rfl]
  rfl

/-- Any other character makes no difference to what is open. -/
lemma closesAll_cons {c : Char} (hc : isBrace c = false) (opened : ℕ) (t : Text) :
    closesAll opened (c :: t) = closesAll opened t := by
  have hopen : c ≠ '\x7b' := by
    rintro rfl
    cases hc
  have hclose : c ≠ '\x7d' := by
    rintro rfl
    cases hc
  rw [closesAll, if_neg hopen, if_neg hclose]

/-- Behind a text that closes what was open in it, the braces that were open before are open. -/
lemma closesAll_append {b : Text} {n : ℕ} (hb : closesAll n b) (opened : ℕ) (t : Text) :
    closesAll (n + opened) (b ++ t) = closesAll opened t := by
  induction b generalizing n with
  | nil =>
    obtain rfl : n = 0 := by simpa [closesAll] using hb
    rw [Nat.zero_add, List.nil_append]
  | cons c b ih =>
    cases hc : isBrace c with
    | false =>
      rw [closesAll_cons hc] at hb
      rw [List.cons_append, closesAll_cons hc, ih hb]
    | true =>
      obtain rfl | rfl : c = '\x7b' ∨ c = '\x7d' := by simpa [isBrace] using hc
      · rw [closesAll_open] at hb
        rw [List.cons_append, closesAll_open, Nat.add_right_comm, ih hb]
      · cases n with
        | zero => cases hb
        | succ n =>
          rw [closesAll_close] at hb
          rw [List.cons_append, Nat.add_right_comm, closesAll_close, ih hb]

/-- A balanced text makes no difference to what is open. -/
lemma Balanced.closesAll_append {b : Text} (hb : Balanced b) (opened : ℕ) (t : Text) :
    closesAll opened (b ++ t) = closesAll opened t := by
  have hafter := Text.closesAll_append hb opened t
  rwa [Nat.zero_add] at hafter

/-- A text without braces is balanced. -/
lemma Braceless.balanced (h : Braceless t) : Balanced t := by
  induction t with
  | nil => rfl
  | cons c t ih =>
    rw [Braceless, List.forall_mem_cons] at h
    rw [Balanced, closesAll_cons h.1]
    exact ih h.2

/-- Two balanced texts are balanced together. -/
lemma Balanced.append {s : Text} (hs : Balanced s) (ht : Balanced t) : Balanced (s ++ t) :=
  (hs.closesAll_append 0 t).trans ht

/-- A balanced text in braces is balanced, with a balanced text behind it. -/
lemma Balanced.group {b : Text} (hb : Balanced b) (ht : Balanced t) :
    Balanced ('\x7b' :: (b ++ '\x7d' :: t)) := by
  rw [Balanced, closesAll_open, hb.closesAll_append, closesAll_close]
  exact ht

/-- The first brace of a balanced text is an opening one. -/
lemma Balanced.exists_open (h : Balanced t) (hbrace : ¬ Braceless t) :
    ∃ m y, t = m ++ '\x7b' :: y ∧ Braceless m := by
  obtain ⟨m, d, y, rfl, hm, hd⟩ := (braceless_or_exists t).resolve_left hbrace
  obtain rfl | rfl : d = '\x7b' ∨ d = '\x7d' := by simpa [isBrace] using hd
  · exact ⟨m, y, rfl, hm⟩
  · rw [Balanced, hm.balanced.closesAll_append] at h
    cases h

/-- A text that closes an open brace does so behind a balanced text. -/
lemma exists_of_closesAll (h : closesAll (opened + 1) t) :
    ∃ b s, t = b ++ '\x7d' :: s ∧ Balanced b ∧ closesAll opened s := by
  induction hlength : t.length using Nat.strong_induction_on generalizing t opened with
  | _ n ih =>
    subst hlength
    cases t with
    | nil => cases h
    | cons c t =>
      cases hc : isBrace c with
      | false =>
        rw [closesAll_cons hc] at h
        obtain ⟨b, s, rfl, hb, hs⟩ := ih t.length (by simp) h rfl
        exact ⟨c :: b, s, rfl, (closesAll_cons hc 0 b).trans hb, hs⟩
      | true =>
        obtain rfl | rfl : c = '\x7b' ∨ c = '\x7d' := by simpa [isBrace] using hc
        · -- The brace that is opened first is closed first.
          rw [closesAll_open] at h
          obtain ⟨b, s, rfl, hb, hs⟩ := ih t.length (by simp) h rfl
          obtain ⟨b', s', rfl, hb', hs'⟩ := ih s.length (by simp; omega) hs rfl
          exact ⟨'\x7b' :: (b ++ '\x7d' :: b'), s', by simp, hb.group hb', hs'⟩
        · rw [closesAll_close] at h
          exact ⟨[], t, rfl, rfl, h⟩

end Text

end DesignTokens
