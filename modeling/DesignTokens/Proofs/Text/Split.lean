import DesignTokens.Text.Basic
import Mathlib.Data.List.Forall2
import Mathlib.Data.List.Infix
import Mathlib.Data.List.TakeWhile

/-!
# Cutting a text

A text is cut at the first occurrence of a character, or at all of them.  This file says what the
parts are, where two characters of a joint text stand side by side, and what is dropped from the end
of a text.
-/

namespace DesignTokens

namespace Text

-- Without these two, what holds of all or of some characters of a text is decided by trying all
-- characters that there are.

instance (priority := 1100) decidableForallMem (p : Char → Prop) [DecidablePred p] (t : Text) :
    Decidable (∀ c ∈ t, p c) :=
  List.decidableBAll p t

instance (priority := 1100) decidableExistsMem (p : Char → Prop) [DecidablePred p] (t : Text) :
    Decidable (∃ c ∈ t, p c) :=
  List.decidableBEx p t

variable {a c : Char} {s t p x y : Text} {ps qs : List Text}

/-- Where a list is cut in two, an entry of it belongs to one of the parts. -/
lemma append_eq_append_cons {α : Type} {l₁ l₂ m₁ m₂ : List α} {a : α}
    (h : l₁ ++ l₂ = m₁ ++ a :: m₂) :
    (∃ m, m₁ = l₁ ++ m ∧ l₂ = m ++ a :: m₂) ∨ ∃ m, l₁ = m₁ ++ a :: m ∧ m₂ = m ++ l₂ := by
  rcases List.append_eq_append_iff.mp h with hright | ⟨l, rfl, hl⟩
  · exact Or.inl hright
  · cases l with
    | nil => exact Or.inl ⟨[], by simp, hl.symm⟩
    | cons b l =>
      obtain ⟨rfl, rfl⟩ := List.cons.inj hl
      exact Or.inr ⟨l, rfl, rfl⟩

/-- The last character of a text is the last one behind a place, or the one at this place. -/
lemma getLast?_append_cons (x : Text) (a : Char) (y : Text) :
    (x ++ a :: y).getLast? = y.getLast?.or (some a) := by
  rw [List.getLast?_append, List.getLast?_cons]
  cases y.getLast? <;> rfl

/-- A character that occurs in a text occurs there last. -/
lemma exists_last_of_mem (h : a ∈ t) : ∃ b x, t = b ++ a :: x ∧ a ∉ x := by
  obtain ⟨x, b, hsplit, hx⟩ := List.eq_append_cons_of_mem (List.mem_reverse.mpr h)
  refine ⟨b.reverse, x.reverse, ?_, by simpa using hx⟩
  rw [← List.reverse_reverse t, hsplit]
  simp

/-- A text without the character is not cut. -/
lemma cutFirst_of_not_mem (h : a ∉ t) : cutFirst a t = (t, none) := by
  induction t with
  | nil => rfl
  | cons c t ih =>
    rw [List.mem_cons, not_or] at h
    rw [cutFirst, if_neg (Ne.symm h.1), ih h.2]

/-- A text is cut at the first occurrence of the character. -/
lemma cutFirst_append (hx : a ∉ x) (y : Text) : cutFirst a (x ++ a :: y) = (x, some y) := by
  induction x with
  | nil =>
    rw [List.nil_append, cutFirst]
    exact if_pos rfl
  | cons c x ih =>
    rw [List.mem_cons, not_or] at hx
    rw [List.cons_append, cutFirst, if_neg (Ne.symm hx.1), ih hx.2]

/-- A text is cut at the first occurrence of a character. -/
lemma cutFirst_eq_iff : cutFirst a t = (x, some y) ↔ t = x ++ a :: y ∧ a ∉ x := by
  constructor
  · intro h
    by_cases hmem : a ∈ t
    · obtain ⟨x', y', rfl, hx'⟩ := List.eq_append_cons_of_mem hmem
      rw [cutFirst_append hx', Prod.mk.injEq, Option.some.injEq] at h
      obtain ⟨rfl, rfl⟩ := h
      exact ⟨rfl, hx'⟩
    · rw [cutFirst_of_not_mem hmem] at h
      cases h
  · rintro ⟨rfl, hx⟩
    exact cutFirst_append hx y

/-- The character at the front cuts an empty part off. -/
lemma splitOn_cons_self (a : Char) (t : Text) : (a :: t).splitOn a = [] :: t.splitOn a := by
  rw [List.splitOn_cons_eq_if_modifyHead, if_pos (beq_self_eq_true a)]

/-- Any other character at the front belongs to the first part. -/
lemma splitOn_cons_of_ne (h : c ≠ a) (t : Text) :
    (c :: t).splitOn a = (t.splitOn a).modifyHead (List.cons c) := by
  rw [List.splitOn_cons_eq_if_modifyHead, if_neg (by simpa using h)]

/-- What is joined stands in the joint text. -/
lemma infix_intercalate (h : p ∈ ps) : p <:+: [a].intercalate ps := by
  induction ps with
  | nil => cases h
  | cons q ps ih =>
    by_cases hps : ps = []
    · subst hps
      rw [List.mem_singleton.mp h, List.intercalate_singleton]
    · rw [List.intercalate_cons_of_ne_nil hps]
      rcases List.mem_cons.mp h with rfl | h
      · rw [List.append_assoc]
        exact (List.prefix_append p _).isInfix
      · exact (ih h).trans (List.suffix_append _ _).isInfix

/-- What stands in the joint text has been joined, or joins. -/
lemma mem_of_mem_intercalate {α : Type} {a c : α} {ps : List (List α)}
    (h : c ∈ [a].intercalate ps) : c = a ∨ ∃ p ∈ ps, c ∈ p := by
  induction ps with
  | nil => cases h
  | cons q ps ih =>
    by_cases hps : ps = []
    · subst hps
      rw [List.intercalate_singleton] at h
      exact Or.inr ⟨q, List.mem_cons_self, h⟩
    · rw [List.intercalate_cons_of_ne_nil hps, List.mem_append, List.mem_append,
        List.mem_singleton] at h
      rcases h with (h | h) | h
      · exact Or.inr ⟨q, List.mem_cons_self, h⟩
      · exact Or.inl h
      · exact (ih h).imp_right fun ⟨p, hp, hc⟩ => ⟨p, List.mem_cons_of_mem q hp, hc⟩

/-- Two joint texts are joined where the one ends and the other begins. -/
lemma intercalate_append (hps : ps ≠ []) (hqs : qs ≠ []) :
    [a].intercalate (ps ++ qs) = [a].intercalate ps ++ a :: [a].intercalate qs := by
  induction ps with
  | nil => exact absurd rfl hps
  | cons p ps ih =>
    by_cases hrest : ps = []
    · subst hrest
      rw [List.singleton_append, List.intercalate_cons_of_ne_nil hqs, List.intercalate_singleton]
      simp
    · rw [List.cons_append, List.intercalate_cons_of_ne_nil (by simp [hrest]), ih hrest,
        List.intercalate_cons_of_ne_nil hrest]
      simp

/-- A part of a text has no character at which the text is cut. -/
lemma not_of_mem_splitOnP {f : Char → Bool} (h : p ∈ t.splitOnP f) (hc : c ∈ p) : f c = false := by
  induction t generalizing p with
  | nil =>
    rw [List.splitOnP_nil, List.mem_singleton] at h
    rw [h] at hc
    cases hc
  | cons d t ih =>
    rw [List.splitOnP_cons_eq_if_modifyHead] at h
    split at h
    · rcases List.mem_cons.mp h with rfl | h
      · cases hc
      · exact ih h hc
    · next hd =>
      obtain ⟨q, qs, hqs⟩ := List.exists_cons_of_ne_nil (List.splitOnP_ne_nil f t)
      rw [hqs] at h ih
      rcases List.mem_cons.mp h with rfl | h
      · rcases List.mem_cons.mp hc with rfl | hc
        · rwa [Bool.not_eq_true] at hd
        · exact ih List.mem_cons_self hc
      · exact ih (List.mem_cons_of_mem q h) hc

/-- No part has the character at which it was cut. -/
lemma not_mem_of_mem_splitOn (h : p ∈ t.splitOn a) : a ∉ p := by
  intro ha
  rw [List.splitOn_eq_splitOnP] at h
  exact absurd (not_of_mem_splitOnP h ha) (by simp)

/-- A text stands between two others where a text is cut at a character. -/
structure IsCut (a : Char) (x p y : Text) : Prop where
  /-- The text in front ends with the character. -/
  front : x = [] ∨ ∃ x', x = x' ++ [a]
  /-- The text itself does not have the character. -/
  not_mem : a ∉ p
  /-- The text behind begins with the character. -/
  behind : y = [] ∨ ∃ y', y = a :: y'

/-- A part of a text stands where the text is cut, and at its end only if it is the last part. -/
lemma exists_of_splitOn_eq (h : t.splitOn a = ps ++ p :: qs) :
    ∃ x y, t = x ++ p ++ y ∧ IsCut a x p y ∧ (y = [] → qs = []) := by
  have hjoint : t = [a].intercalate (ps ++ p :: qs) := by rw [← h, List.intercalate_splitOn]
  have hmem : p ∈ t.splitOn a := by simp [h]
  have hfront : ∃ x, (x = [] ∨ ∃ x', x = x' ++ [a]) ∧ t = x ++ [a].intercalate (p :: qs) := by
    by_cases hps : ps = []
    · exact ⟨[], Or.inl rfl, by rw [hjoint, hps]; rfl⟩
    · refine ⟨[a].intercalate ps ++ [a], Or.inr ⟨_, rfl⟩, ?_⟩
      rw [hjoint, intercalate_append hps (List.cons_ne_nil p qs), List.append_assoc]
      rfl
  have hbehind : ∃ y, (y = [] ∨ ∃ y', y = a :: y') ∧ [a].intercalate (p :: qs) = p ++ y ∧
      (y = [] → qs = []) := by
    by_cases hqs : qs = []
    · exact ⟨[], Or.inl rfl, by rw [hqs, List.intercalate_singleton, List.append_nil], fun _ => hqs⟩
    · refine ⟨a :: [a].intercalate qs, Or.inr ⟨_, rfl⟩, ?_, fun h => absurd h (by simp)⟩
      rw [List.intercalate_cons_of_ne_nil hqs, List.append_assoc]
      rfl
  obtain ⟨x, hx, ht⟩ := hfront
  obtain ⟨y, hy, hp, hlast⟩ := hbehind
  exact ⟨x, y, by rw [ht, hp, List.append_assoc], ⟨hx, not_mem_of_mem_splitOn hmem, hy⟩, hlast⟩

/-- Each part of a text stands between two places where the text is cut. -/
lemma exists_of_mem_splitOn (h : p ∈ t.splitOn a) : ∃ x y, t = x ++ p ++ y ∧ IsCut a x p y := by
  obtain ⟨ps, qs, hsplit⟩ := List.append_of_mem h
  obtain ⟨x, y, ht, hcut, -⟩ := exists_of_splitOn_eq hsplit
  exact ⟨x, y, ht, hcut⟩

/-- Each part of a text but the last one stands in front of a place where the text is cut. -/
lemma exists_of_mem_dropLast_splitOn (h : p ∈ (t.splitOn a).dropLast) :
    ∃ x y, t = x ++ p ++ a :: y ∧ IsCut a x p (a :: y) := by
  obtain ⟨ps, qs, hsplit⟩ := List.append_of_mem h
  have hwhole := List.dropLast_append_getLast (List.splitOn_ne_nil a t)
  rw [hsplit, List.append_assoc, List.cons_append] at hwhole
  obtain ⟨x, y, ht, hcut, hlast⟩ := exists_of_splitOn_eq hwhole.symm
  rcases hcut.behind with rfl | ⟨y', rfl⟩
  · exact absurd (hlast rfl) (by simp)
  · exact ⟨x, y', ht, hcut⟩

/-- Each part of a text stands in it. -/
lemma infix_of_mem_splitOn (h : p ∈ t.splitOn a) : p <:+: t := by
  have hjoint := infix_intercalate (a := a) h
  rwa [List.intercalate_splitOn] at hjoint

/-- A character that does not cut is in one of the parts. -/
lemma exists_mem_splitOnP {f : Char → Bool} (hmem : c ∈ t) (hc : f c = false) :
    ∃ p ∈ t.splitOnP f, c ∈ p := by
  induction t with
  | nil => cases hmem
  | cons d t ih =>
    rw [List.splitOnP_cons_eq_if_modifyHead]
    by_cases hd : f d
    · rw [if_pos hd]
      have hrest : c ∈ t := by
        rcases List.mem_cons.mp hmem with rfl | h
        · rw [hd] at hc
          cases hc
        · exact h
      obtain ⟨p, hp, hcp⟩ := ih hrest
      exact ⟨p, List.mem_cons_of_mem _ hp, hcp⟩
    · rw [if_neg hd]
      obtain ⟨q, qs, hqs⟩ := List.exists_cons_of_ne_nil (List.splitOnP_ne_nil f t)
      rw [hqs] at ih ⊢
      rw [List.modifyHead_cons]
      rcases List.mem_cons.mp hmem with rfl | h
      · exact ⟨c :: q, List.mem_cons_self, List.mem_cons_self⟩
      · obtain ⟨p, hp, hcp⟩ := ih h
        rcases List.mem_cons.mp hp with rfl | hp
        · exact ⟨d :: p, List.mem_cons_self, List.mem_cons_of_mem d hcp⟩
        · exact ⟨p, List.mem_cons_of_mem _ hp, hcp⟩

/-- Texts that have a character at the same places have parts of the same lengths. -/
lemma map_length_splitOn_congr {u : Text} (h : List.Forall₂ (fun b c => b = a ↔ c = a) t u) :
    (t.splitOn a).map List.length = (u.splitOn a).map List.length := by
  induction h with
  | nil => rfl
  | @cons b c t u hbc _ ih =>
    by_cases hb : b = a
    · rw [hb, hbc.mp hb, splitOn_cons_self, splitOn_cons_self, List.map_cons, List.map_cons, ih]
    · rw [splitOn_cons_of_ne hb, splitOn_cons_of_ne (hb ∘ hbc.mpr)]
      -- The first parts are longer by one character each.
      have hlonger : ∀ (c : Char) (ps : List Text), (ps.modifyHead (List.cons c)).map List.length
          = (ps.map List.length).modifyHead (· + 1) := by
        intro c ps
        cases ps <;> rfl
      rw [hlonger, hlonger, ih]

/-- Two characters that stand side by side in a joint text do so in its second part, if the first
part does not have the first of them. -/
lemma pair_infix_of_not_mem_left {b : Char} (h : [a, b] <:+: s ++ t) (hs : a ∉ s) :
    [a, b] <:+: t := by
  induction s with
  | nil => exact h
  | cons c s ih =>
    rw [List.mem_cons, not_or] at hs
    rw [List.cons_append, List.infix_cons_iff, List.cons_prefix_cons] at h
    exact ih (h.resolve_left fun hfirst => hs.1 hfirst.1) hs.2

/-- They do so in its first part, if the second part does not have the second of them. -/
lemma pair_infix_of_not_mem_right {b : Char} (h : [a, b] <:+: s ++ t) (ht : b ∉ t) :
    [a, b] <:+: s := by
  rw [← List.reverse_infix, List.reverse_append] at h
  rw [← List.reverse_infix]
  exact pair_infix_of_not_mem_left h (by simpa using ht)

/-- What is dropped at the end of a text is of the kind that is dropped. -/
lemma exists_eq_dropEnd_append (f : Char → Bool) (t : Text) :
    ∃ s, (∀ c ∈ s, f c) ∧ t = (t.reverse.dropWhile f).reverse ++ s := by
  refine ⟨(t.reverse.takeWhile f).reverse, ?_, ?_⟩
  · intro c hc
    exact List.mem_takeWhile_imp (List.mem_reverse.mp hc)
  · rw [← List.reverse_append, List.takeWhile_append_dropWhile, List.reverse_reverse]

/-- A run of characters of a class ends where a text begins with another character. -/
lemma span_append {p : Char → Bool} (hs : ∀ c ∈ s, p c)
    (ht : ∀ c ∈ t.head?, p c = false) :
    (s ++ t).takeWhile p = s ∧ (s ++ t).dropWhile p = t := by
  rw [List.takeWhile_append_of_pos hs, List.dropWhile_append_of_pos hs]
  cases t with
  | nil => simp
  | cons c t =>
    have hc : p c = false := ht c rfl
    simp [hc]

end Text

end DesignTokens
