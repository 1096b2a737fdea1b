import DesignTokens.Proofs.Text.Words

/-!
# Texts that differ in their white space

Collapsing leaves single spaces in the place of white space.  `Stretched` goes the other way: each
space of a text stands for some white space.  What a collapsed text has in it, the text itself has
in the same place, but for such spaces (`exists_stretched_collapse`), and this holds for each part
of the collapsed text (`Stretched.split`).
-/

namespace DesignTokens

namespace Text

variable {c : Char} {s t u v : Text}

/-- The second text is the first one, with white space in the place of some of its spaces. -/
inductive Stretched : Text → Text → Prop
  /-- Nothing stays nothing. -/
  | nil : Stretched [] []
  /-- A character may stay as it is. -/
  | cons {t u : Text} (c : Char) (h : Stretched t u) : Stretched (c :: t) (c :: u)
  /-- White space may stand for a space. -/
  | space {s t u : Text} (hs : s ≠ []) (hblank : ∀ c ∈ s, isBlank c) (h : Stretched t u) :
      Stretched (' ' :: t) (s ++ u)

/-- Both parts of a text are stretched on their own. -/
lemma Stretched.split (h : Stretched (s ++ t) v) :
    ∃ a b, v = a ++ b ∧ Stretched s a ∧ Stretched t b := by
  induction s generalizing v with
  | nil => exact ⟨[], v, rfl, .nil, h⟩
  | cons c s ih =>
    rw [List.cons_append] at h
    cases h with
    | cons _ h =>
      obtain ⟨a, b, rfl, ha, hb⟩ := ih h
      exact ⟨c :: a, b, rfl, ha.cons c, hb⟩
    | @space r _ _ hr hblank h =>
      obtain ⟨a, b, rfl, ha, hb⟩ := ih h
      exact ⟨r ++ a, b, (List.append_assoc r a b).symm, ha.space hr hblank, hb⟩

/-- A text without spaces stays as it is. -/
lemma Stretched.eq (h : Stretched t u) (ht : ' ' ∉ t) : u = t := by
  induction h with
  | nil => rfl
  | cons c _ ih =>
    rw [List.mem_cons, not_or] at ht
    rw [ih ht.2]
  | space _ _ _ _ => exact absurd List.mem_cons_self ht

/-- White space stays white space. -/
lemma Stretched.blank (h : Stretched t u) (ht : ∀ c ∈ t, isBlank c) : ∀ c ∈ u, isBlank c := by
  induction h with
  | nil => exact ht
  | cons c _ ih =>
    rw [List.forall_mem_cons] at ht ⊢
    exact ⟨ht.1, ih ht.2⟩
  | space _ hblank _ ih =>
    rw [List.forall_mem_cons] at ht
    exact List.forall_mem_append.mpr ⟨hblank, ih ht.2⟩

/-- What is stretched is not empty unless it was so before. -/
lemma Stretched.ne_nil (h : Stretched t u) (ht : t ≠ []) : u ≠ [] := by
  cases h with
  | nil => exact absurd rfl ht
  | cons c _ => exact List.cons_ne_nil c _
  | space hs _ _ => exact List.append_ne_nil_of_left_ne_nil hs _

/-- A stretched text may be stretched again. -/
lemma Stretched.trans (h : Stretched t u) (hv : Stretched u v) : Stretched t v := by
  induction h generalizing v with
  | nil => exact hv
  | cons c _ ih =>
    cases hv with
    | cons _ hv => exact (ih hv).cons c
    | space hs hblank hv => exact (ih hv).space hs hblank
  | space hs hblank _ ih =>
    obtain ⟨a, b, rfl, ha, hb⟩ := hv.split
    exact (ih hb).space (ha.ne_nil hs) (ha.blank hblank)

/-- Nothing is left of white space when white space is filtered out. -/
lemma filter_of_blank (ht : ∀ c ∈ t, isBlank c) : t.filter (fun c => !isBlank c) = [] :=
  List.filter_eq_nil_iff.mpr fun c hc => by simp [ht c hc]

/-- Nothing but white space is added. -/
lemma Stretched.filter_eq (h : Stretched t u) :
    t.filter (fun c => !isBlank c) = u.filter fun c => !isBlank c := by
  induction h with
  | nil => rfl
  | cons c _ ih => rw [List.filter_cons, List.filter_cons, ih]
  | space _ hblank _ ih =>
    rw [List.filter_append, filter_of_blank hblank, List.nil_append, ← ih]
    rfl

/-! ### Collapsed texts -/

/-- A character in front of white space is a word. -/
lemma words_cons_of_apart (hc : isBlank c = false) (ht : ∀ d ∈ t.head?, isBlank d) :
    words (c :: t) = [c] :: words t := by
  have hfirst : ∃ ps, t.splitOnP isBlank = [] :: ps := by
    cases t with
    | nil => exact ⟨[], rfl⟩
    | cons d t =>
      rw [List.splitOnP_cons_eq_if_modifyHead, if_pos (ht d rfl)]
      exact ⟨_, rfl⟩
  obtain ⟨ps, hps⟩ := hfirst
  rw [words, List.splitOnP_cons_eq_if_modifyHead, if_neg (by simp [hc]), hps, words, hps]
  rfl

/-- A character in front of another one belongs to its word. -/
lemma words_cons_of_joined (hc : isBlank c = false) {d : Char} (hd : isBlank d = false) (t : Text) :
    words (c :: d :: t) = (words (d :: t)).modifyHead (List.cons c) := by
  have hfirst : ∃ p ps, (d :: t).splitOnP isBlank = (d :: p) :: ps := by
    rw [List.splitOnP_cons_eq_if_modifyHead, if_neg (by simp [hd])]
    obtain ⟨p, ps, hps⟩ := List.exists_cons_of_ne_nil (List.splitOnP_ne_nil isBlank t)
    rw [hps]
    exact ⟨p, ps, rfl⟩
  obtain ⟨p, ps, hps⟩ := hfirst
  rw [words, List.splitOnP_cons_eq_if_modifyHead, if_neg (by simp [hc]), hps, words, hps]
  rfl

/-- Collapsing keeps two characters together that are no white space. -/
lemma collapse_cons_of_joined (hc : isBlank c = false) {d : Char} (hd : isBlank d = false)
    (t : Text) : collapse (c :: d :: t) = c :: collapse (d :: t) := by
  rw [collapse, words_cons_of_joined hc hd, collapse]
  obtain ⟨w, ws, hws⟩ := List.exists_cons_of_ne_nil (words_ne_nil List.mem_cons_self hd)
  rw [hws, List.modifyHead_cons]
  cases ws with
  | nil => simp
  | cons w' ws => simp [List.intercalate_cons_cons]

/-- Collapsing leaves one space between a character and the next word. -/
lemma collapse_cons_of_apart (hc : isBlank c = false) (ht : ∀ d ∈ t.head?, isBlank d)
    (hsome : words t ≠ []) : collapse (c :: t) = c :: ' ' :: collapse t := by
  rw [collapse, words_cons_of_apart hc ht, List.intercalate_cons_of_ne_nil hsome, collapse]
  rfl

/-- A text is its collapsed text with some white space for each space, and white space around it. -/
theorem exists_stretched_collapse (t : Text) :
    ∃ a u b, t = a ++ u ++ b ∧ (∀ c ∈ a, isBlank c) ∧ (∀ c ∈ b, isBlank c) ∧
      (∀ c ∈ u.head?, isBlank c = false) ∧ Stretched (collapse t) u := by
  induction t with
  | nil => exact ⟨[], [], [], rfl, by simp, by simp, by simp, .nil⟩
  | cons c t ih =>
    obtain ⟨a, u, b, rfl, ha, hb, hu, hstretched⟩ := ih
    cases hc : isBlank c with
    | true =>
      refine ⟨c :: a, u, b, rfl, List.forall_mem_cons.mpr ⟨hc, ha⟩, hb, hu, ?_⟩
      rwa [collapse, words_cons_of_blank hc]
    | false =>
      cases u with
      | nil =>
        have hblank : ∀ d ∈ a ++ b, isBlank d := List.forall_mem_append.mpr ⟨ha, hb⟩
        refine ⟨[], [c], a ++ b, by simp, by simp, hblank, by simpa using hc, ?_⟩
        have hhead : ∀ d ∈ (a ++ b).head?, isBlank d := fun d hd => hblank d (List.mem_of_head? hd)
        rw [List.append_nil, collapse, words_cons_of_apart hc hhead, words_of_blank hblank,
          List.intercalate_singleton]
        exact .cons c .nil
      | cons d u =>
        have hd : isBlank d = false := hu d rfl
        refine ⟨[], c :: (a ++ d :: u), b, rfl, by simp, hb, by simpa using hc, ?_⟩
        cases a with
        | nil =>
          rw [List.nil_append, List.cons_append, collapse_cons_of_joined hc hd]
          exact hstretched.cons c
        | cons e a =>
          have hhead : ∀ d ∈ (e :: a ++ d :: u ++ b).head?, isBlank d := by
            rintro _ ⟨⟩
            exact ha e List.mem_cons_self
          rw [collapse_cons_of_apart hc hhead (words_ne_nil (c := d) (by simp) hd)]
          exact (hstretched.space (List.cons_ne_nil e a) ha).cons c

/-- Collapsing changes nothing but white space. -/
lemma filter_collapse (t : Text) :
    (collapse t).filter (fun c => !isBlank c) = t.filter fun c => !isBlank c := by
  obtain ⟨a, u, b, ht, ha, hb, -, hu⟩ := exists_stretched_collapse t
  rw [hu.filter_eq, ht, List.filter_append, List.filter_append, filter_of_blank ha,
    filter_of_blank hb, List.nil_append, List.append_nil]

/-- Collapsing keeps the number of each character that is no white space. -/
lemma count_collapse (hc : isBlank c = false) (t : Text) : (collapse t).count c = t.count c := by
  have hcounts : ∀ u : Text, (u.filter fun c => !isBlank c).count c = u.count c :=
    fun u => List.count_filter (by simp [hc])
  rw [← hcounts, filter_collapse, hcounts]

/-- A character that is no white space was there before collapsing. -/
lemma mem_of_mem_collapse (h : c ∈ collapse t) (hc : isBlank c = false) : c ∈ t := by
  rw [← List.count_pos_iff, ← count_collapse hc]
  exact List.count_pos_iff.mpr h

/-! ### Texts that stay as they are -/

/-- A text has single spaces between its words and no other white space. -/
inductive IsTight : Text → Prop
  /-- A character that is not white space. -/
  | single {c : Char} (hc : isBlank c = false) : IsTight [c]
  /-- Another one directly before it. -/
  | joined {c : Char} {t : Text} (hc : isBlank c = false) (h : IsTight t) : IsTight (c :: t)
  /-- Another one before it and a space. -/
  | apart {c : Char} {t : Text} (hc : isBlank c = false) (h : IsTight t) : IsTight (c :: ' ' :: t)

/-- A tight text begins with a character that is no white space. -/
lemma IsTight.exists_cons (h : IsTight t) : ∃ c u, t = c :: u ∧ isBlank c = false := by
  cases h with
  | single hc => exact ⟨_, _, rfl, hc⟩
  | joined hc _ => exact ⟨_, _, rfl, hc⟩
  | apart hc _ => exact ⟨_, _, rfl, hc⟩

/-- In front of another text, a tight one stays as it is, and one space stays of the white space
between them. -/
lemma IsTight.collapse_append (h : IsTight t) (u : Text) :
    collapse (t ++ u)
      = t ++ if u.head?.any isBlank && !u.all isBlank then ' ' :: collapse u else collapse u := by
  induction h with
  | @single c hc =>
    rw [List.singleton_append]
    cases u with
    | nil =>
      rw [collapse, words_cons_of_apart hc (by simp)]
      rfl
    | cons d u =>
      cases hd : isBlank d with
      | false =>
        have hhead : (d :: u).head?.any isBlank = false := hd
        rw [collapse_cons_of_joined hc hd, hhead, Bool.false_and, if_neg Bool.false_ne_true,
          List.singleton_append]
      | true =>
        have hfirst : ∀ e ∈ (d :: u).head?, isBlank e := by
          rintro e ⟨⟩
          exact hd
        have hhead : (d :: u).head?.any isBlank = true := hd
        -- White space at the end is dropped, and in front of another word it becomes one space.
        cases hall : (d :: u).all isBlank with
        | true =>
          have hblank := List.all_eq_true.mp hall
          rw [hhead, collapse, words_cons_of_apart hc hfirst, words_of_blank hblank,
            collapse_of_blank hblank]
          rfl
        | false =>
          obtain ⟨e, he, hvisible⟩ := List.all_eq_false.mp hall
          rw [Bool.not_eq_true] at hvisible
          rw [hhead, collapse_cons_of_apart hc hfirst (words_ne_nil he hvisible)]
          rfl
  | @joined c t hc h ih =>
    obtain ⟨d, s, rfl, hd⟩ := h.exists_cons
    rw [List.cons_append] at ih
    rw [List.cons_append, List.cons_append, collapse_cons_of_joined hc hd, ih]
    rfl
  | @apart c t hc h ih =>
    obtain ⟨d, s, rfl, hd⟩ := h.exists_cons
    have hfirst : ∀ e ∈ (' ' :: (d :: s ++ u)).head?, isBlank e := by
      rintro e ⟨⟩
      decide
    have hwords : words (' ' :: (d :: s ++ u)) ≠ [] := words_ne_nil (c := d) (by simp) hd
    rw [List.cons_append, List.cons_append, collapse_cons_of_apart hc hfirst hwords,
      collapse, words_cons_of_blank (by decide), ← collapse, ih]
    rfl

/-- Between two characters that are not white space, a text without other white space than single
spaces makes a tight one. -/
lemma isTight_cons_concat {c d : Char} {t : Text} (hc : isBlank c = false) (hd : isBlank d = false)
    (hspaces : ∀ e ∈ t, isBlank e → e = ' ')
    (hrun : t.IsChain fun e f => ¬ (isBlank e ∧ isBlank f)) : IsTight (c :: (t ++ [d])) := by
  match t with
  | [] => exact .joined hc (.single hd)
  | e :: u =>
    rw [List.forall_mem_cons] at hspaces
    cases he : isBlank e with
    | false => exact .joined hc (isTight_cons_concat he hd hspaces.2 hrun.of_cons)
    | true =>
      obtain rfl := hspaces.1 he
      match u with
      | [] => exact .apart hc (.single hd)
      | f :: v =>
        rw [List.isChain_cons_cons] at hrun
        rw [List.forall_mem_cons] at hspaces
        have hf : isBlank f = false := Bool.eq_false_iff.mpr fun hf => hrun.1 ⟨he, hf⟩
        exact .apart hc (isTight_cons_concat hf hd hspaces.2.2 hrun.2.of_cons)

end Text

end DesignTokens
