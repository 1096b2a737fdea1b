import DesignTokens.Proofs.Text.Braces
import DesignTokens.Proofs.Text.Words
import DesignTokens.Script.Properties

/-!
# What is read of a script

A script is read from the left to the right: at each place a token block begins or not, and at each
place of a block a property begins or not.  Here it is said what begins at one place
(`block?_eq_some_iff`, `property?_eq_some_iff`), and what is passed over on the way to the next one
(`blocks_append`, `blockProperties_append`).
-/

namespace DesignTokens

namespace Script

open Text (Braceless)

variable {t k body inside rest x y : Text} {c q : Char} {previous : Option Char}

/-! ### Blocks -/

/-- The words for tokens, a colon and an opening brace, with white space around the colon. -/
def Opens (t : Text) : Prop :=
  ∃ b₁ b₂ rest, (∀ c ∈ b₁, isBlank c) ∧ (∀ c ∈ b₂, isBlank c) ∧
    t = "token".toList ++ (b₁ ++ ':' :: (b₂ ++ '\x7b' :: rest))

/-- A token block begins behind a text: no word is cut. -/
def BlockAt (x y : Text) : Prop :=
  (∀ c ∈ x.getLast?, isWordChar c = false) ∧ Opens y

/-- White space in front is stripped up to the first other character. -/
lemma stripLeft_blank {b : Text} (hb : ∀ c ∈ b, isBlank c) (hc : isBlank c = false) (t : Text) :
    Text.stripLeft (b ++ c :: t) = c :: t := by
  refine Text.stripLeft_append_of_blank hb ?_
  rintro _ ⟨⟩
  exact hc

/-- What is inside a block that begins at a place has no braces. -/
lemma block?_eq_some_iff :
    block? t = some (inside, rest) ↔ Braceless inside ∧
      ∃ b₁ b₂, (∀ c ∈ b₁, isBlank c) ∧ (∀ c ∈ b₂, isBlank c) ∧
        t = "token".toList ++ (b₁ ++ ':' :: (b₂ ++ '\x7b' :: (inside ++ '\x7d' :: rest))) := by
  simp only [block?, Option.bind_eq_bind, Option.bind_eq_some_iff, Option.pure_def,
    Option.some.injEq, Prod.mk.injEq]
  constructor
  · rintro ⟨u, hu, v, hv, w, hw, r, hr, rfl, rfl⟩
    rw [Text.after?_eq_some_iff] at hu hv hw hr
    obtain ⟨b₁, hb₁, hu'⟩ := Text.exists_stripLeft u
    obtain ⟨b₂, hb₂, hv'⟩ := Text.exists_stripLeft v
    refine ⟨fun c hc => ?_, b₁, b₂, hb₁, hb₂, ?_⟩
    · simpa [Glob.isBrace] using List.mem_takeWhile_imp hc
    · rw [hu, hu', hv, hv', hw]
      have hw' := List.takeWhile_append_dropWhile
        (p := fun c => !(c == '\x7b' || c == '\x7d')) (l := w)
      rw [hr] at hw'
      conv_lhs => rw [← hw']
      simp
  · rintro ⟨hinside, b₁, b₂, hb₁, hb₂, rfl⟩
    obtain ⟨htake, hdrop⟩ := Text.span_append (p := fun c => !(c == '\x7b' || c == '\x7d'))
      (s := inside) (t := '\x7d' :: rest) (fun c hc => by simpa [Glob.isBrace] using hinside c hc)
      (by rintro _ ⟨⟩; rfl)
    refine ⟨_, Text.after?_eq_some_iff.mpr rfl, b₂ ++ '\x7b' :: (inside ++ '\x7d' :: rest), ?_,
      inside ++ '\x7d' :: rest, ?_, rest, ?_, htake, rfl⟩
    · rw [stripLeft_blank hb₁ (by decide)]
      rfl
    · rw [stripLeft_blank hb₂ (by decide)]
      rfl
    · rw [hdrop]
      rfl

/-- No block begins before a block inside it. -/
lemma block?_of_nested {b₁ b₂ m : Text} (hb₁ : ∀ c ∈ b₁, isBlank c) (hb₂ : ∀ c ∈ b₂, isBlank c)
    (hm : Braceless m) (rest : Text) :
    block? ("token".toList ++ (b₁ ++ ':' :: (b₂ ++ '\x7b' :: (m ++ '\x7b' :: rest)))) = none := by
  obtain ⟨-, hdrop⟩ := Text.span_append (p := fun c => !(c == '\x7b' || c == '\x7d'))
    (s := m) (t := '\x7b' :: rest) (fun c hc => by simpa [Glob.isBrace] using hm c hc)
    (by rintro _ ⟨⟩; rfl)
  have hword : ∀ t, Text.after? "token".toList ("token".toList ++ t) = some t :=
    fun _ => Text.after?_eq_some_iff.mpr rfl
  have hcolon : ∀ t, Text.after? ":".toList (':' :: t) = some t :=
    fun _ => Text.after?_eq_some_iff.mpr rfl
  have hopen : ∀ t, Text.after? "\x7b".toList ('\x7b' :: t) = some t :=
    fun _ => Text.after?_eq_some_iff.mpr rfl
  have hfirst : isBlank ':' = false := by decide
  have hsecond : isBlank '\x7b' = false := by decide
  simp only [block?, hword, hcolon, hopen, hdrop, stripLeft_blank hb₁ hfirst,
    stripLeft_blank hb₂ hsecond, Option.bind_eq_bind, Option.bind_some]
  rfl

/-- A block is read only where one is opened. -/
lemma opens_of_block? (h : block? t = some (inside, rest)) : Opens t := by
  obtain ⟨-, b₁, b₂, hb₁, hb₂, rfl⟩ := block?_eq_some_iff.mp h
  exact ⟨b₁, b₂, _, hb₁, hb₂, rfl⟩

/-- A block is read behind a character exactly if no word is cut there and one can be read. -/
lemma wordBlock?_eq_some_iff :
    wordBlock? previous t = some (inside, rest) ↔
      (∀ c ∈ previous, isWordChar c = false) ∧ block? t = some (inside, rest) := by
  rw [wordBlock?]
  cases previous with
  | none => simp
  | some c => cases hc : isWordChar c <;> simp [hc]

/-- The reader of blocks goes on behind the block that it has read. -/
lemma blocks_of_some (h : wordBlock? previous t = some (inside, rest)) :
    blocks previous t = inside :: blocks (some '\x7d') rest := by
  rw [blocks]
  split
  · next heq =>
    cases h.symm.trans heq
    rfl
  · next heq => cases h.symm.trans heq

/-- Where no block is read, the reader of blocks goes on at the next character. -/
lemma blocks_of_none (h : wordBlock? previous (c :: t) = none) :
    blocks previous (c :: t) = blocks (some c) t := by
  rw [blocks]
  split
  · next heq => cases h.symm.trans heq
  · rfl

/-- The empty text has no block. -/
lemma blocks_nil (previous : Option Char) : blocks previous [] = [] := by
  have hnone : wordBlock? previous [] = none := by
    rw [wordBlock?]
    split <;> rfl
  rw [blocks]
  split
  · next heq => cases hnone.symm.trans heq
  · rfl

/-- Places where no block begins are passed over. -/
lemma blocks_append (h : ∀ u v, x = u ++ v → v ≠ [] →
      wordBlock? (u.getLast?.or previous) (v ++ y) = none) :
    blocks previous (x ++ y) = blocks (x.getLast?.or previous) y := by
  induction x generalizing previous with
  | nil => rfl
  | cons c x ih =>
    have hlast : ∀ u : Text, (c :: u).getLast?.or previous = u.getLast?.or (some c) := by
      intro u
      rw [← List.nil_append (c :: u), Text.getLast?_append_cons]
      cases u.getLast? <;> rfl
    have hhere : wordBlock? previous (c :: (x ++ y)) = none :=
      h [] (c :: x) rfl (List.cons_ne_nil c x)
    rw [List.cons_append, blocks_of_none hhere, hlast]
    refine ih fun u v huv hv => ?_
    rw [← hlast]
    exact h (c :: u) v (congrArg (c :: ·) huv) hv

/-- Where no block begins, there are none. -/
lemma blocks_eq_nil (h : ∀ u v, t = u ++ v → v ≠ [] →
      wordBlock? (u.getLast?.or previous) v = none) : blocks previous t = [] := by
  have hskip := blocks_append (y := []) fun u v huv hv => by
    rw [List.append_nil]
    exact h u v huv hv
  rw [List.append_nil, blocks_nil] at hskip
  exact hskip

/-! ### Properties -/

/-- May the text be read as a key?  It begins with an ASCII letter, the underscore or the dollar
sign. -/
def isKey : Text → Bool
  | [] => false
  | c :: t => isKeyStart c && t.all isKeyChar

/-- White space does not stand in a key. -/
lemma not_isKeyChar_of_blank (hc : isBlank c) : isKeyChar c = false := by
  rw [isKeyChar, Text.not_isWordChar_of_blank hc, Bool.false_or, beq_eq_false_iff_ne]
  rintro rfl
  exact absurd hc (by decide)

/-- The first character of a key may also stand inside one. -/
lemma isKeyChar_of_isKeyStart (hc : isKeyStart c) : isKeyChar c := by
  rw [isKeyStart, Bool.or_eq_true, Bool.or_eq_true, beq_iff_eq, beq_iff_eq] at hc
  rcases hc with (hc | rfl) | rfl
  · have hcode := Text.toNat_of_isAlpha hc
    rw [isKeyChar, isWordChar, if_pos (by omega), isAsciiAlnum]
    simp only [Bool.or_eq_true, Bool.and_eq_true, decide_eq_true_eq]
    omega
  · decide
  · decide

/-- Every character of a key may stand inside one. -/
lemma isKeyChar_of_mem (hk : isKey k) (hc : c ∈ k) : isKeyChar c := by
  cases k with
  | nil => cases hc
  | cons d k =>
    rw [isKey, Bool.and_eq_true, List.all_eq_true] at hk
    rcases List.mem_cons.mp hc with rfl | hc
    · exact isKeyChar_of_isKeyStart hk.1
    · exact hk.2 c hc

/-- A quote is no white space. -/
lemma isBlank_of_isQuote (hq : isQuote q) : isBlank q = false := by
  rw [isQuote, Bool.or_eq_true, Bool.or_eq_true, beq_iff_eq, beq_iff_eq, beq_iff_eq] at hq
  rcases hq with (rfl | rfl) | rfl <;> decide

/-- The text in quotes ends with the first quote, and does not go beyond the line. -/
lemma quotedBody?_eq_some_iff :
    quotedBody? q t = some (body, rest) ↔ t = body ++ q :: rest ∧ q ∉ body ∧ '\n' ∉ body := by
  induction t generalizing body with
  | nil => simp [quotedBody?]
  | cons c t ih =>
    rw [quotedBody?]
    by_cases hq : c = q
    · subst hq
      rw [if_pos rfl]
      constructor
      · rintro ⟨⟩
        exact ⟨rfl, List.not_mem_nil, List.not_mem_nil⟩
      · rintro ⟨heq, hmem, -⟩
        cases body with
        | nil =>
          cases heq
          rfl
        | cons d body =>
          obtain ⟨rfl, -⟩ := List.cons.inj heq
          exact absurd List.mem_cons_self hmem
    · rw [if_neg hq]
      by_cases hline : c = '\n'
      · rw [if_pos hline]
        refine iff_of_false (Option.some_ne_none _).symm ?_
        rintro ⟨heq, -, hmem⟩
        cases body with
        | nil => exact hq (List.cons.inj heq).1
        | cons d body =>
          obtain ⟨rfl, -⟩ := List.cons.inj heq
          exact hmem (hline ▸ List.mem_cons_self)
      · rw [if_neg hline, Option.map_eq_some_iff]
        constructor
        · rintro ⟨⟨body', rest'⟩, hbody, heq⟩
          cases heq
          obtain ⟨rfl, hmem, hmem'⟩ := ih.mp hbody
          refine ⟨rfl, ?_, ?_⟩
          · exact List.not_mem_cons_of_ne_of_not_mem (Ne.symm hq) hmem
          · exact List.not_mem_cons_of_ne_of_not_mem (Ne.symm hline) hmem'
        · rintro ⟨heq, hmem, hmem'⟩
          cases body with
          | nil => exact absurd (List.cons.inj heq).1 hq
          | cons d body =>
            obtain ⟨rfl, rfl⟩ := List.cons.inj heq
            rw [List.mem_cons, not_or] at hmem hmem'
            exact ⟨_, ih.mpr ⟨rfl, hmem.2, hmem'.2⟩, rfl⟩

/-- What is read as a property: a key, a colon with white space around it, and a text in quotes that
has neither its quote nor a line feed inside. -/
lemma property?_eq_some_iff :
    property? t = some ((k, body), rest) ↔ isKey k ∧ ∃ b₁ b₂ q,
      (∀ c ∈ b₁, isBlank c) ∧ (∀ c ∈ b₂, isBlank c) ∧ isQuote q ∧ q ∉ body ∧ '\n' ∉ body ∧
        t = k ++ (b₁ ++ ':' :: (b₂ ++ q :: (body ++ q :: rest))) := by
  constructor
  · intro h
    cases t with
    | nil => cases h
    | cons c t =>
      rw [property?] at h
      split at h
      · next hc =>
        split at h
        · cases h
        · next u hu =>
          split at h
          · next q v hv =>
            split at h
            · next hq =>
              obtain ⟨⟨body', rest'⟩, hbody, heq⟩ := Option.map_eq_some_iff.mp h
              cases heq
              obtain ⟨rfl, hquote, hline⟩ := quotedBody?_eq_some_iff.mp hbody
              rw [Text.after?_eq_some_iff] at hu
              obtain ⟨b₁, hb₁, hfront⟩ := Text.exists_stripLeft (t.dropWhile isKeyChar)
              obtain ⟨b₂, hb₂, hbehind⟩ := Text.exists_stripLeft u
              refine ⟨?_, b₁, b₂, q, hb₁, hb₂, hq, hquote, hline, ?_⟩
              · rw [isKey, hc, Bool.true_and]
                exact List.all_takeWhile
              · have hkey := List.takeWhile_append_dropWhile (p := isKeyChar) (l := t)
                rw [hfront, hu, hbehind, hv] at hkey
                conv_lhs => rw [← hkey]
                rfl
            · cases h
          · cases h
      · cases h
  · -- Neither white space nor a colon can stand in a key, so that all of `k` is read and no more.
    rintro ⟨hk, b₁, b₂, q, hb₁, hb₂, hq, hquote, hline, rfl⟩
    cases k with
    | nil => cases hk
    | cons c k =>
      rw [isKey, Bool.and_eq_true, List.all_eq_true] at hk
      have hstop : ∀ d ∈ (b₁ ++ ':' :: (b₂ ++ q :: (body ++ q :: rest))).head?,
          isKeyChar d = false := by
        cases b₁ with
        | nil =>
          rintro _ ⟨⟩
          decide
        | cons d b₁ =>
          rintro _ ⟨⟩
          exact not_isKeyChar_of_blank (hb₁ d List.mem_cons_self)
      obtain ⟨htake, hdrop⟩ := Text.span_append hk.2 hstop
      rw [List.cons_append, property?, if_pos hk.1, hdrop, htake, stripLeft_blank hb₁ (by decide)]
      have hafter : Text.after? ":".toList (':' :: (b₂ ++ q :: (body ++ q :: rest)))
          = some (b₂ ++ q :: (body ++ q :: rest)) := Text.after?_eq_some_iff.mpr rfl
      rw [hafter]
      dsimp only
      rw [stripLeft_blank hb₂ (isBlank_of_isQuote hq)]
      dsimp only
      rw [if_pos hq, quotedBody?_eq_some_iff.mpr ⟨rfl, hquote, hline⟩]
      rfl

/-- A property begins with a letter, the underscore or the dollar sign. -/
lemma property?_of_not_isKeyStart (hc : isKeyStart c = false) (t : Text) :
    property? (c :: t) = none := by
  rw [property?, if_neg (by simp [hc])]

/-- The reader of properties goes on behind the property that it has read. -/
lemma blockProperties_of_some {entry : Text × Text} (h : property? t = some (entry, rest)) :
    blockProperties t = entry :: blockProperties rest := by
  rw [blockProperties]
  split
  · next heq =>
    cases h.symm.trans heq
    rfl
  · next heq => cases h.symm.trans heq

/-- Where no property is read, the reader of properties goes on at the next character. -/
lemma blockProperties_of_none (h : property? (c :: t) = none) :
    blockProperties (c :: t) = blockProperties t := by
  rw [blockProperties]
  split
  · next heq => cases h.symm.trans heq
  · rfl

/-- The empty text has no property. -/
lemma blockProperties_nil : blockProperties [] = [] := by
  rw [blockProperties]
  rfl

/-- Places where no property begins are passed over. -/
lemma blockProperties_append (h : ∀ u v, x = u ++ v → v ≠ [] → property? (v ++ y) = none) :
    blockProperties (x ++ y) = blockProperties y := by
  induction x with
  | nil => rfl
  | cons c x ih =>
    have hhere : property? (c :: (x ++ y)) = none := h [] (c :: x) rfl (List.cons_ne_nil c x)
    rw [List.cons_append, blockProperties_of_none hhere]
    exact ih fun u v huv hv => h (c :: u) v (congrArg (c :: ·) huv) hv

/-- Where a property begins, a property is read that begins there or before. -/
lemma exists_mem_blockProperties {entry : Text × Text} (h : property? y = some (entry, rest))
    (x : Text) : ∃ u v entry' rest', x = u ++ v ∧ property? (v ++ y) = some (entry', rest') ∧
      entry' ∈ blockProperties (x ++ y) := by
  induction x with
  | nil =>
    refine ⟨[], [], entry, rest, rfl, h, ?_⟩
    rw [List.nil_append, blockProperties_of_some h]
    exact List.mem_cons_self
  | cons c x ih =>
    cases hhere : property? (c :: (x ++ y)) with
    | none =>
      obtain ⟨u, v, entry', rest', rfl, hread, hmem⟩ := ih
      refine ⟨c :: u, v, entry', rest', rfl, hread, ?_⟩
      rw [List.cons_append, blockProperties_of_none hhere]
      exact hmem
    | some first =>
      obtain ⟨entry', rest'⟩ := first
      refine ⟨[], c :: x, entry', rest', rfl, hhere, ?_⟩
      rw [List.cons_append, blockProperties_of_some hhere]
      exact List.mem_cons_self

/-- Everything that is read has a key with which a property may begin. -/
lemma isKey_of_mem_blockProperties {entry : Text × Text} (h : entry ∈ blockProperties t) :
    isKey entry.1 := by
  induction t using blockProperties.induct with
  | case1 t entry' rest heq _ ih =>
    rw [blockProperties_of_some heq] at h
    rcases List.mem_cons.mp h with rfl | h
    · exact (property?_eq_some_iff.mp heq).1
    · exact ih h
  | case2 heq =>
    rw [blockProperties_nil] at h
    cases h
  | case3 c t heq ih =>
    rw [blockProperties_of_none heq] at h
    exact ih h

end Script

end DesignTokens
