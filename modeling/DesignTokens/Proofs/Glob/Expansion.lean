import DesignTokens.Proofs.Glob.Braces
import Mathlib.Algebra.BigOperators.Ring.List
import Mathlib.Computability.Language

/-!
# What a pattern with alternatives stands for

A pattern with balanced braces is a sequence of characters and groups, and a group is a list of
alternatives that are sequences again (`Sequence`).  A character stands for itself, a sequence for
all that its parts stand for, one behind the other, and a group for what any of its alternatives
stands for (`Sequence.meaning`).

Groups are replaced in the text, innermost first, and not along this structure.  One replacement is
compared with the structure: it takes one group of the sequence apart that has no group inside, and
leaves sequences again, which together stand for the same (`Sequence.meaning_of_step`).  So the
results are what the pattern stands for (`expandBraces_correct`).
-/

namespace DesignTokens

namespace Glob

open Text

mutual

/-- Characters and groups, one after another.  Inside a group, a comma does not count as a
character. -/
inductive Sequence : (inside : Bool) → Type
  /-- Nothing. -/
  | nil {inside : Bool} : Sequence inside
  /-- A character that is no brace, and what follows. -/
  | char {inside : Bool} (c : Char) (plain : isBrace c = false) (single : inside = true → c ≠ ',')
      (rest : Sequence inside) : Sequence inside
  /-- A group, and what follows. -/
  | group {inside : Bool} (alternatives : Alternatives) (rest : Sequence inside) : Sequence inside

/-- The alternatives of a group, of which there is one at least. -/
inductive Alternatives : Type
  /-- The last alternative. -/
  | last (s : Sequence true)
  /-- An alternative, and those behind it. -/
  | cons (s : Sequence true) (rest : Alternatives)

end

mutual

/-- The pattern as it is written. -/
def Sequence.text {inside : Bool} : Sequence inside → Text
  | .nil => []
  | .char c _ _ rest => c :: rest.text
  | .group alternatives rest => '\x7b' :: (alternatives.text ++ '\x7d' :: rest.text)

/-- The alternatives, separated by commas. -/
def Alternatives.text : Alternatives → Text
  | .last s => s.text
  | .cons s rest => s.text ++ ',' :: rest.text

end

mutual

/-- What a pattern stands for. -/
def Sequence.meaning {inside : Bool} : Sequence inside → Language Char
  | .nil => 1
  | .char c _ _ rest => {[c]} * rest.meaning
  | .group alternatives rest => alternatives.meaning * rest.meaning

/-- What any of the alternatives stands for. -/
def Alternatives.meaning : Alternatives → Language Char
  | .last s => s.meaning
  | .cons s rest => s.meaning + rest.meaning

end

variable {inside : Bool} {ss : List (Sequence inside)} {as : List Alternatives}

/-! ### Balance -/

mutual

/-- The braces of a sequence are balanced. -/
lemma Sequence.balanced {inside : Bool} : (s : Sequence inside) → Text.Balanced s.text
  | .nil => rfl
  | .char _ plain _ rest => (closesAll_cons plain 0 _).trans rest.balanced
  | .group alternatives rest => alternatives.balanced.group rest.balanced

/-- The braces of the alternatives of a group are balanced. -/
lemma Alternatives.balanced : (as : Alternatives) → Text.Balanced as.text
  | .last s => s.balanced
  | .cons s rest => s.balanced.append ((closesAll_cons rfl 0 _).trans rest.balanced)

end

/-! ### Taking a group apart -/

/-- One sequence behind another one. -/
def Sequence.append {i j : Bool} (hij : j = true → i = true) : Sequence i → Sequence j → Sequence j
  | .nil, t => t
  | .char c plain single s, t => .char c plain (fun hj => single (hij hj)) (s.append hij t)
  | .group alternatives s, t => .group alternatives (s.append hij t)

/-- The alternatives, one by one. -/
def Alternatives.toList : Alternatives → List (Sequence true)
  | .last s => [s]
  | .cons s rest => s :: rest.toList

mutual

/-- The sequences that are left when the first group without a group inside is replaced. -/
def Sequence.step {inside : Bool} : Sequence inside → Option (List (Sequence inside))
  | .nil => none
  | .char c plain single rest => rest.step.map (List.map (.char c plain single))
  | .group alternatives rest =>
      match alternatives.step with
      | some as => some (as.map (.group · rest))
      | none => some (alternatives.toList.map fun s => s.append (fun _ => rfl) rest)

/-- The alternatives that are left when the first group without a group inside is replaced. -/
def Alternatives.step : Alternatives → Option (List Alternatives)
  | .last s => s.step.map (List.map .last)
  | .cons s rest =>
      match s.step with
      | some ss => some (ss.map (.cons · rest))
      | none => rest.step.map (List.map (.cons s))

end

/-! ### Sequences without groups -/

/-- Two sequences are written one behind the other. -/
lemma Sequence.text_append {i j : Bool} (hij : j = true → i = true) :
    (s : Sequence i) → (t : Sequence j) → (s.append hij t).text = s.text ++ t.text
  | .nil, _ => rfl
  | .char c _ _ s, t => congrArg (c :: ·) (s.text_append hij t)
  | .group alternatives s, t => by
      rw [append, text, s.text_append hij t, text, List.cons_append, List.append_assoc,
        List.cons_append]

/-- Two sequences, one behind the other, stand for what the first one stands for, followed by what
the second one does. -/
lemma Sequence.meaning_append {i j : Bool} (hij : j = true → i = true) :
    (s : Sequence i) → (t : Sequence j) → (s.append hij t).meaning = s.meaning * t.meaning
  | .nil, _ => (one_mul _).symm
  | .char _ _ _ s, t => by rw [append, meaning, s.meaning_append hij t, meaning, mul_assoc]
  | .group _ s, t => by rw [append, meaning, s.meaning_append hij t, meaning, mul_assoc]

/-- Alternatives stand for what any one of them does. -/
lemma Alternatives.meaning_eq_sum :
    (as : Alternatives) → as.meaning = (as.toList.map Sequence.meaning).sum
  | .last s => by rw [meaning, toList, List.map_singleton, List.sum_singleton]
  | .cons s rest => by rw [meaning, toList, List.map_cons, List.sum_cons, rest.meaning_eq_sum]

/-- A sequence that has no group to be replaced has no braces, and stands for itself. -/
lemma Sequence.of_step_eq_none {inside : Bool} : (s : Sequence inside) → s.step = none →
    Braceless s.text ∧ s.meaning = {s.text} ∧ (inside = true → ',' ∉ s.text)
  | .nil, _ => ⟨List.forall_mem_nil _, rfl, fun _ => List.not_mem_nil⟩
  | .char c plain single s, h => by
      obtain ⟨hplain, hmeaning, hcomma⟩ := s.of_step_eq_none (Option.map_eq_none_iff.mp h)
      refine ⟨List.forall_mem_cons.mpr ⟨plain, hplain⟩, ?_, fun hinside => ?_⟩
      · rw [meaning, hmeaning]
        exact Set.image2_singleton
      · exact List.not_mem_cons_of_ne_of_not_mem (single hinside).symm (hcomma hinside)
  | .group alternatives s, h => by
      rw [step] at h
      split at h <;> cases h

/-- Alternatives in which nothing is replaced have no brace, and the commas tell them apart. -/
lemma Alternatives.of_step_eq_none : (as : Alternatives) → as.step = none →
    Braceless as.text ∧ as.toList.map Sequence.text = as.text.splitOn ','
  | .last s, h => by
      obtain ⟨hplain, -, hcomma⟩ := s.of_step_eq_none (Option.map_eq_none_iff.mp h)
      refine ⟨hplain, ?_⟩
      rw [toList, List.map_singleton, text, List.splitOn_eq_singleton (hcomma rfl)]
  | .cons s rest, h => by
      rw [step] at h
      cases hs : s.step with
      | some ss =>
        rw [hs] at h
        cases h
      | none =>
        rw [hs] at h
        obtain ⟨hplain, -, hcomma⟩ := s.of_step_eq_none hs
        obtain ⟨hplain', hsplit⟩ := rest.of_step_eq_none (Option.map_eq_none_iff.mp h)
        refine ⟨hplain.append (List.forall_mem_cons.mpr ⟨rfl, hplain'⟩), ?_⟩
        rw [toList, List.map_cons, hsplit, text, List.splitOn_append_cons_self,
          List.splitOn_eq_singleton (hcomma rfl)]
        rfl

/-! ### One replacement -/

/-- What is added to every choice is added once to all of them together. -/
lemma sum_map_add_const {α : Type} {f : α → Language Char} {l : List α} (hl : l ≠ [])
    (L : Language Char) : (l.map fun a => f a + L).sum = (l.map f).sum + L := by
  induction l with
  | nil => exact absurd rfl hl
  | cons a l ih =>
    rw [List.map_cons, List.sum_cons, List.map_cons, List.sum_cons]
    cases l with
    | nil => simp
    | cons b l =>
      rw [ih (List.cons_ne_nil b l), add_add_add_comm, add_idem, add_assoc]

/-- There is one alternative at least. -/
lemma Alternatives.toList_ne_nil : (as : Alternatives) → as.toList ≠ []
  | .last _ => List.cons_ne_nil _ _
  | .cons _ _ => List.cons_ne_nil _ _

mutual

/-- A replacement leaves sequences that together stand for the same. -/
lemma Sequence.meaning_of_step {inside : Bool} : (s : Sequence inside) →
    {ss : List (Sequence inside)} → s.step = some ss →
      ss ≠ [] ∧ s.meaning = (ss.map Sequence.meaning).sum
  | .nil, _, h => nomatch h
  | .char c plain single s, _, h => by
      obtain ⟨ss, hss, rfl⟩ := Option.map_eq_some_iff.mp h
      obtain ⟨hne, hmeaning⟩ := s.meaning_of_step hss
      refine ⟨by simpa using hne, ?_⟩
      rw [Sequence.meaning, hmeaning, ← List.sum_map_mul_left, List.map_map]
      rfl
  | .group alternatives s, _, h => by
      rw [Sequence.step] at h
      cases hstep : alternatives.step with
      | some as =>
        rw [hstep] at h
        cases h
        obtain ⟨hne, hmeaning⟩ := alternatives.meaning_of_step hstep
        refine ⟨by simpa using hne, ?_⟩
        rw [Sequence.meaning, hmeaning, ← List.sum_map_mul_right, List.map_map]
        rfl
      | none =>
        rw [hstep] at h
        cases h
        refine ⟨by simpa using alternatives.toList_ne_nil, ?_⟩
        rw [Sequence.meaning, alternatives.meaning_eq_sum, ← List.sum_map_mul_right, List.map_map]
        simp only [Function.comp_def, Sequence.meaning_append]

/-- A replacement in one of the alternatives leaves alternatives that together stand for the same.
-/
lemma Alternatives.meaning_of_step : (a : Alternatives) → {as : List Alternatives} →
    a.step = some as → as ≠ [] ∧ a.meaning = (as.map Alternatives.meaning).sum
  | .last s, _, h => by
      obtain ⟨ss, hss, rfl⟩ := Option.map_eq_some_iff.mp h
      obtain ⟨hne, hmeaning⟩ := s.meaning_of_step hss
      refine ⟨by simpa using hne, ?_⟩
      rw [Alternatives.meaning, hmeaning, List.map_map]
      rfl
  | .cons s rest, _, h => by
      rw [Alternatives.step] at h
      cases hs : s.step with
      | some ss =>
        rw [hs] at h
        cases h
        obtain ⟨hne, hmeaning⟩ := s.meaning_of_step hs
        refine ⟨by simpa using hne, ?_⟩
        rw [Alternatives.meaning, hmeaning, ← sum_map_add_const hne, List.map_map]
        rfl
      | none =>
        rw [hs] at h
        obtain ⟨as, has, rfl⟩ := Option.map_eq_some_iff.mp h
        obtain ⟨hne, hmeaning⟩ := rest.meaning_of_step has
        refine ⟨by simpa using hne, ?_⟩
        rw [Alternatives.meaning, hmeaning, add_comm, ← sum_map_add_const hne, List.map_map]
        simp only [Function.comp_def, Alternatives.meaning, add_comm]

end

/-- A text in which no brace is closed has no group. -/
lemma not_hasGroup_of_not_mem {t : Text} (h : '\x7d' ∉ t) : ¬ HasGroup t := by
  rintro ⟨x, m, y, rfl, -⟩
  exact h (by simp)

mutual

/-- The replacement in a sequence is the one in its text, wherever the text stands behind braces
that are open. -/
lemma Sequence.group?_of_step {inside : Bool} : (s : Sequence inside) →
    {ss : List (Sequence inside)} → s.step = some ss → {before : Text} → '\x7d' ∉ before →
      (behind : Text) → ∃ g, group? (before ++ s.text ++ behind) = some g ∧
        g.options.map g.fill = ss.map fun s' => before ++ s'.text ++ behind
  | .nil, _, h, _, _, _ => nomatch h
  | .char c plain single s, _, h, before, hbefore, behind => by
      obtain ⟨ss, hss, rfl⟩ := Option.map_eq_some_iff.mp h
      have hfront : '\x7d' ∉ before ++ [c] := by
        rw [List.mem_append, List.mem_singleton, not_or]
        refine ⟨hbefore, ?_⟩
        rintro rfl
        cases plain
      obtain ⟨g, hg, hoptions⟩ := s.group?_of_step hss hfront behind
      refine ⟨g, by simpa [Sequence.text] using hg, ?_⟩
      rw [hoptions, List.map_map]
      simp [Function.comp_def, Sequence.text]
  | .group alternatives s, _, h, before, hbefore, behind => by
      rw [Sequence.step] at h
      cases hstep : alternatives.step with
      | some as =>
        rw [hstep] at h
        cases h
        have hfront : '\x7d' ∉ before ++ ['\x7b'] := by simpa using hbefore
        obtain ⟨g, hg, hoptions⟩ :=
          alternatives.group?_of_step hstep hfront ('\x7d' :: s.text ++ behind)
        refine ⟨g, by simpa [Sequence.text] using hg, ?_⟩
        rw [hoptions, List.map_map]
        simp [Function.comp_def, Sequence.text]
      | none =>
        -- There is no group inside, so this is the group that is replaced.
        rw [hstep] at h
        cases h
        obtain ⟨hplain, hsplit⟩ := alternatives.of_step_eq_none hstep
        have hfound := group?_append (not_hasGroup_of_not_mem hbefore) hplain (s.text ++ behind)
        refine ⟨_, by simpa [Sequence.text] using hfound, ?_⟩
        rw [Group.options, ← hsplit, List.map_map, List.map_map]
        simp [Function.comp_def, Group.fill, Sequence.text_append]

/-- The replacement in the alternatives is the one in their text, wherever the text stands behind
braces that are open. -/
lemma Alternatives.group?_of_step : (a : Alternatives) → {as : List Alternatives} →
    a.step = some as → {before : Text} → '\x7d' ∉ before → (behind : Text) →
      ∃ g, group? (before ++ a.text ++ behind) = some g ∧
        g.options.map g.fill = as.map fun a' => before ++ a'.text ++ behind
  | .last s, _, h, before, hbefore, behind => by
      obtain ⟨ss, hss, rfl⟩ := Option.map_eq_some_iff.mp h
      obtain ⟨g, hg, hoptions⟩ := s.group?_of_step hss hbefore behind
      refine ⟨g, hg, ?_⟩
      rw [hoptions, List.map_map]
      rfl
  | .cons s rest, _, h, before, hbefore, behind => by
      rw [Alternatives.step] at h
      cases hs : s.step with
      | some ss =>
        rw [hs] at h
        cases h
        obtain ⟨g, hg, hoptions⟩ := s.group?_of_step hs hbefore (',' :: rest.text ++ behind)
        refine ⟨g, by simpa [Alternatives.text] using hg, ?_⟩
        rw [hoptions, List.map_map]
        simp [Function.comp_def, Alternatives.text]
      | none =>
        rw [hs] at h
        obtain ⟨as, has, rfl⟩ := Option.map_eq_some_iff.mp h
        obtain ⟨hplain, -, -⟩ := s.of_step_eq_none hs
        have hfront : '\x7d' ∉ before ++ (s.text ++ [',']) := by
          simpa using ⟨hbefore, hplain.not_mem rfl⟩
        obtain ⟨g, hg, hoptions⟩ := rest.group?_of_step has hfront behind
        refine ⟨g, by simpa [Alternatives.text] using hg, ?_⟩
        rw [hoptions, List.map_map]
        simp [Function.comp_def, Alternatives.text]

end

/-! ### All replacements -/

/-- Something is stood for by several choices together if it is by one of them. -/
lemma mem_sum_map_iff {α : Type} {f : α → Language Char} {l : List α} {r : Text} :
    r ∈ (l.map f).sum ↔ ∃ a ∈ l, r ∈ f a := by
  induction l with
  | nil => simp
  | cons a l ih => rw [List.map_cons, List.sum_cons, Language.mem_add, ih, List.exists_mem_cons_iff]

/-- The results for a sequence are what it stands for. -/
lemma Sequence.mem_expandBraces_iff (s : Sequence false) (r : Text) :
    r ∈ expandBraces s.text ↔ r ∈ s.meaning := by
  induction ht : s.text using induction_on_groups generalizing s with
  | h t ih =>
    subst ht
    rw [expandBraces_eq]
    cases hstep : s.step with
    | none =>
      obtain ⟨hplain, hmeaning, -⟩ := s.of_step_eq_none hstep
      rw [group?_eq_none_iff.mpr (not_hasGroup_of_braceless hplain), hmeaning]
      exact List.mem_singleton
    | some ss =>
      obtain ⟨-, hmeaning⟩ := s.meaning_of_step hstep
      obtain ⟨g, hg, hoptions⟩ := s.group?_of_step hstep List.not_mem_nil []
      simp only [List.nil_append, List.append_nil] at hg hoptions
      rw [hg, hmeaning, mem_sum_map_iff]
      calc r ∈ g.options.flatMap (fun o => expandBraces (g.fill o))
          ↔ ∃ u ∈ g.options.map g.fill, r ∈ expandBraces u := by simp
        _ ↔ ∃ s' ∈ ss, r ∈ expandBraces s'.text := by rw [hoptions]; simp
        _ ↔ ∃ s' ∈ ss, r ∈ s'.meaning := by
          refine exists_congr fun s' => and_congr_right fun hs' => ?_
          have hmem : s'.text ∈ g.options.map g.fill := hoptions ▸ List.mem_map_of_mem hs'
          obtain ⟨o, ho, heq⟩ := List.mem_map.mp hmem
          rw [← heq]
          exact ih g hg o ho s' heq.symm

/-! ### Balanced patterns -/

/-- A text with balanced braces is a sequence, and inside a group it is a list of alternatives. -/
lemma exists_sequence {t : Text} (h : Text.Balanced t) :
    (∃ s : Sequence false, s.text = t) ∧ ∃ as : Alternatives, as.text = t := by
  induction hlength : t.length using Nat.strong_induction_on generalizing t with
  | _ n ih =>
    subst hlength
    cases t with
    | nil => exact ⟨⟨.nil, rfl⟩, .last .nil, rfl⟩
    | cons c t =>
      cases hc : isBrace c with
      | false =>
        rw [Text.Balanced, closesAll_cons hc] at h
        obtain ⟨⟨s, rfl⟩, as, has⟩ := ih t.length (by simp) h rfl
        refine ⟨⟨.char c hc (fun h => absurd h Bool.false_ne_true) s, rfl⟩, ?_⟩
        -- A comma outside all groups ends an alternative, any other character joins the first one.
        by_cases hcomma : c = ','
        · exact ⟨.cons .nil as, by rw [Alternatives.text, has, hcomma]; rfl⟩
        · cases as with
          | last s' => exact ⟨.last (.char c hc (fun _ => hcomma) s'), congrArg (c :: ·) has⟩
          | cons s' rest =>
            exact ⟨.cons (.char c hc (fun _ => hcomma) s') rest, congrArg (c :: ·) has⟩
      | true =>
        obtain rfl | rfl : c = '\x7b' ∨ c = '\x7d' := by simpa [isBrace] using hc
        · rw [Text.Balanced, closesAll_open] at h
          obtain ⟨b, u, rfl, hb, hu⟩ := exists_of_closesAll h
          have hlength : ('\x7b' :: (b ++ '\x7d' :: u)).length = b.length + u.length + 2 := by
            simp only [List.length_cons, List.length_append]
            omega
          obtain ⟨-, inner, rfl⟩ := ih b.length (by omega) hb rfl
          obtain ⟨⟨s, rfl⟩, as, has⟩ := ih u.length (by omega) hu rfl
          refine ⟨⟨.group inner s, rfl⟩, ?_⟩
          rw [← has]
          cases as with
          | last s' => exact ⟨.last (.group inner s'), rfl⟩
          | cons s' rest =>
            exact ⟨.cons (.group inner s') rest, by simp [Alternatives.text, Sequence.text]⟩
        · cases h

/-- Groups are replaced until none is left: each replacement is that of the leftmost group without a
brace inside, and leaves one opening brace less.

A pattern has balanced braces exactly if it is a sequence of characters and groups, and then the
results are what the sequence stands for.  A pattern in which no group stands inside another one is
a row of groups with loose text between them; its results come in lexicographic order of the
positions of the alternatives that they are made of. -/
theorem expandBraces_correct (t : Text) :
    (expandBraces t = match group? t with
      | none => [t]
      | some g => g.options.flatMap fun o => expandBraces (g.fill o)) ∧
    (∀ g, group? t = some g → ∀ o ∈ g.options, (g.fill o).count '\x7b' < t.count '\x7b') ∧
    (∀ r ∈ expandBraces t, ¬ HasGroup r) ∧
    (Text.Balanced t ↔ ∃ s : Sequence false, s.text = t) ∧
    (∀ s : Sequence false, s.text = t → ∀ r, r ∈ expandBraces t ↔ r ∈ s.meaning) ∧
    (¬ HasNestedGroup t → ∃ q : FlatPattern, q.text = t) ∧
    ∀ q : FlatPattern, q.text = t → ∃ ps : List (List ℕ), ps.Pairwise (· < ·) ∧
      (∀ ks, ks ∈ ps ↔ List.Forall₂ (fun k g => k < g.options.length) ks q.groups) ∧
        expandBraces t = ps.map q.choose := by
  refine ⟨expandBraces_eq t, fun g hg o ho => ?_, fun r => not_hasGroup_of_mem_expandBraces,
    ⟨fun h => (exists_sequence h).1, ?_⟩, ?_, exists_flatPattern, ?_⟩
  · have hcount := count_fill hg ho
    omega
  · rintro ⟨s, rfl⟩
    exact s.balanced
  · rintro s rfl r
    exact s.mem_expandBraces_iff r
  · rintro q rfl
    refine ⟨_, pairwise_positions _, fun ks => ?_, expandBraces_flat q.loose⟩
    rw [mem_positions_iff, List.forall₂_map_right_iff]

/-- A group inside another one, and two groups side by side. -/
theorem expandBraces_nested_and_flat :
    (∃ s : Sequence false, s.text = "\x7ba,\x7bb,c\x7dd\x7d".toList ∧
      ∀ r, r ∈ ["a", "bd", "a", "cd"].map String.toList ↔ r ∈ s.meaning) ∧
    ∃ q : FlatPattern, q.text = "\x7ba,b\x7d/\x7bc,d\x7d".toList ∧
      ∃ ps : List (List ℕ), ps.Pairwise (· < ·) ∧
        ps.map q.choose = ["a/c", "a/d", "b/c", "b/d"].map String.toList := by
  constructor
  · obtain ⟨-, -, -, hbalanced, hmeaning, -⟩ :=
      expandBraces_correct "\x7ba,\x7bb,c\x7dd\x7d".toList
    have hresults : expandBraces "\x7ba,\x7bb,c\x7dd\x7d".toList
        = ["a", "bd", "a", "cd"].map String.toList := by decide +kernel
    obtain ⟨s, hs⟩ := hbalanced.mp (by decide +kernel)
    exact ⟨s, hs, fun r => hresults ▸ hmeaning s hs r⟩
  · obtain ⟨-, -, -, -, -, hflat, hlisted⟩ := expandBraces_correct "\x7ba,b\x7d/\x7bc,d\x7d".toList
    have hresults : expandBraces "\x7ba,b\x7d/\x7bc,d\x7d".toList
        = ["a/c", "a/d", "b/c", "b/d"].map String.toList := by decide +kernel
    obtain ⟨q, hq⟩ := hflat (by decide +kernel)
    obtain ⟨ps, hsorted, -, hps⟩ := hlisted q hq
    exact ⟨q, hq, ps, hsorted, hps.symm.trans hresults⟩

end Glob

end DesignTokens
