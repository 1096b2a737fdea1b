import DesignTokens.Proofs.OrderedMap
import DesignTokens.Proofs.Style.Comment
import DesignTokens.Proofs.Style.Rule

/-!
# Variables of joint style texts

Two style texts are put together behind the last rule or the last statement of the first one.
Behind a rule, the variables of the joint text are those of the first text updated with those of
the second.  Behind a statement they need not be: the statement becomes a part of the selector
that the second text opens with, which then is not accepted, so the rule of that selector defines
nothing.  `variablesOf_append_iff` says exactly when that makes no difference.
-/

namespace DesignTokens

namespace Style

variable {a : Acceptance} {t A B : Text}

/-! ### Ends of texts -/

/-- The last character of a text that is neither white space nor in a comment. -/
def lastMark? (t : Text) : Option Char :=
  (Text.stripRight (removeComments t)).getLast?

/-- Behind its last closing brace a text opens no block. -/
def EndsAtTopLevel (t : Text) : Prop :=
  '\x7b' ∉ behindRules (removeComments t)

instance : Decidable (EndsAtTopLevel t) :=
  inferInstanceAs (Decidable ('\x7b' ∉ _))

/-- The last mark of a text stands before white space only. -/
lemma eq_append_of_lastMark? {c : Char} (h : lastMark? t = some c) :
    ∃ b s, (∀ d ∈ s, isBlank d) ∧ removeComments t = b ++ c :: s := by
  obtain ⟨s, hs, hsplit⟩ := Text.exists_eq_dropEnd_append isBlank (removeComments t)
  rw [← Text.stripRight] at hsplit
  obtain ⟨b, hb⟩ := List.getLast?_eq_some_iff.mp h
  refine ⟨b, s, hs, ?_⟩
  rw [hsplit, hb, List.append_assoc]
  rfl

/-- Only white space stands behind a rule that ends a text. -/
lemma blank_behindRules (h : lastMark? t = some '\x7d') :
    ∀ c ∈ behindRules (removeComments t), isBlank c := by
  obtain ⟨b, s, hs, hsplit⟩ := eq_append_of_lastMark? h
  have hclose : '\x7d' ∉ s := fun h => absurd (hs _ h) (by decide)
  rw [hsplit, behindRules_close hclose]
  exact hs

/-- A statement that ends a text stands behind its last rule. -/
lemma semicolon_mem_behindRules (h : lastMark? t = some ';') :
    ';' ∈ behindRules (removeComments t) := by
  obtain ⟨b, s, hs, hsplit⟩ := eq_append_of_lastMark? h
  have hclose : '\x7d' ∉ ';' :: s := by
    rw [List.mem_cons, not_or]
    exact ⟨by decide, fun h => absurd (hs _ h) (by decide)⟩
  rw [hsplit, behindRules_append hclose]
  exact List.mem_append_right _ List.mem_cons_self

/-- Behind a text that leaves no comment open and has its last mark, comments are as they are
alone. -/
lemma removeComments_append {c : Char} (hclosed : CommentClosed A) (hmark : lastMark? A = some c)
    (hc : c ≠ '/') (B : Text) :
    removeComments (A ++ B) = removeComments A ++ removeComments B := by
  obtain ⟨b, s, hs, hsplit⟩ := eq_append_of_lastMark? hmark
  have hlast : (pieces A).getLast? ≠ some (.code '/') := by
    intro h
    obtain ⟨ps, hps⟩ := List.getLast?_eq_some_iff.mp h
    -- The slash would be the last character of all, and it is no white space.
    have hslash : b ++ c :: s = ps.flatMap Piece.kept ++ ['/'] := by
      rw [← hsplit, removeComments, hps, List.flatMap_append]
      rfl
    rcases List.eq_nil_or_concat s with rfl | ⟨s, d, rfl⟩
    · have hends := List.append_inj' hslash rfl
      exact hc (List.cons.inj hends.2).1
    · rw [List.concat_eq_append, ← List.cons_append, ← List.append_assoc] at hslash
      have hends := List.append_inj' hslash rfl
      have hblank := hs d (by simp)
      rw [(List.cons.inj hends.2).1] at hblank
      revert hblank
      decide
  rw [removeComments, pieces_append hclosed hlast, List.flatMap_append, removeComments,
    removeComments]

/-! ### The opening rule -/

/-- What the rule defines whose selector begins where the text does: the first chunk has one
opening brace. -/
def openingDefinitions (a : Acceptance) (t : Text) : List (Text × Text) :=
  match chunks t with
  | [] => []
  | c :: _ => if c.count '\x7b' = 1 then chunkDefinitions a c else []

/-- What all other rules define. -/
def laterDefinitions (a : Acceptance) (t : Text) : List (Text × Text) :=
  match chunks t with
  | [] => []
  | c :: cs =>
      (if c.count '\x7b' = 1 then [] else chunkDefinitions a c) ++ cs.flatMap (chunkDefinitions a)

/-- The definitions of a text are those of its opening rule and those of the later rules. -/
lemma definitions_eq (a : Acceptance) (t : Text) :
    definitions a t = openingDefinitions a t ++ laterDefinitions a t := by
  rw [definitions, openingDefinitions, laterDefinitions]
  cases chunks t with
  | nil => rfl
  | cons c cs =>
    by_cases hone : c.count '\x7b' = 1
    · simp [hone]
    · simp [hone]

/-- White space in front of a chunk does not count. -/
lemma chunkDefinitions_append_of_blank (ht : ∀ c ∈ t, isBlank c) (chunk : Text) :
    chunkDefinitions a (t ++ chunk) = chunkDefinitions a chunk := by
  have hopen : '\x7b' ∉ t := fun h => absurd (ht _ h) (by decide)
  rcases chunk_cases chunk with hnone | ⟨raw, block, hraw, hblock, rfl⟩ |
    ⟨front, raw, block, hraw, hblock, rfl⟩
  · have hjoint : '\x7b' ∉ t ++ chunk := List.not_mem_append hopen hnone
    rw [chunkDefinitions_of_not_mem hjoint, chunkDefinitions_of_not_mem hnone]
  · have hjoint : '\x7b' ∉ t ++ raw := List.not_mem_append hopen hraw
    rw [← List.append_assoc, chunkDefinitions_of_one hjoint hblock,
      chunkDefinitions_of_one hraw hblock, blockDefinitions, Text.collapse_append_of_blank ht,
      blockDefinitions]
  · rw [← List.append_assoc, chunkDefinitions_of_two hraw hblock,
      chunkDefinitions_of_two hraw hblock]

/-- A statement in front of a chunk takes its rule away if the selector begins where the chunk
does, and otherwise does not count. -/
lemma chunkDefinitions_append_of_statement (hopen : '\x7b' ∉ t) (hsemicolon : ';' ∈ t)
    (chunk : Text) :
    chunkDefinitions .scopes (t ++ chunk)
      = if chunk.count '\x7b' = 1 then [] else chunkDefinitions .scopes chunk := by
  rcases chunk_cases chunk with hnone | ⟨raw, block, hraw, hblock, rfl⟩ |
    ⟨front, raw, block, hraw, hblock, rfl⟩
  · have hjoint : '\x7b' ∉ t ++ chunk := List.not_mem_append hopen hnone
    rw [chunkDefinitions_of_not_mem hjoint, chunkDefinitions_of_not_mem hnone, ite_self]
  · have hjoint : '\x7b' ∉ t ++ raw := List.not_mem_append hopen hraw
    have hone : (raw ++ '\x7b' :: block).count '\x7b' = 1 := by
      simp [List.count_eq_zero.mpr hraw, List.count_eq_zero.mpr hblock]
    have hselector : ';' ∈ Text.collapse (t ++ raw) :=
      Text.mem_collapse (List.mem_append_left raw hsemicolon) (by decide)
    rw [if_pos hone, ← List.append_assoc, chunkDefinitions_of_one hjoint hblock, blockDefinitions,
      selector_scopes_eq_false hselector]
    rfl
  · have hmany : (front ++ '\x7b' :: (raw ++ '\x7b' :: block)).count '\x7b' ≠ 1 := by
      simp only [List.count_append, List.count_cons_self]
      omega
    rw [if_neg hmany, ← List.append_assoc, chunkDefinitions_of_two hraw hblock,
      chunkDefinitions_of_two hraw hblock]

/-- Behind a rule, a text defines what it defines alone. -/
lemma definitions_append_of_blank (h : ∀ c ∈ behindRules t, isBlank c) (v : Text) :
    definitions a (t ++ v) = definitions a t ++ definitions a v := by
  rw [definitions, chunks_append, List.flatMap_append, definitions, definitions]
  congr 1
  cases chunks v with
  | nil => rfl
  | cons c cs =>
    rw [List.modifyHead_cons, List.flatMap_cons, List.flatMap_cons,
      chunkDefinitions_append_of_blank h]

/-- Behind a statement, a text defines what it defines without its opening rule. -/
lemma definitions_append_of_statement (hopen : '\x7b' ∉ behindRules t)
    (hsemicolon : ';' ∈ behindRules t) (v : Text) :
    definitions .scopes (t ++ v) = definitions .scopes t ++ laterDefinitions .scopes v := by
  rw [definitions, chunks_append, List.flatMap_append, definitions, laterDefinitions]
  congr 1
  cases chunks v with
  | nil => rfl
  | cons c cs =>
    rw [List.modifyHead_cons, List.flatMap_cons,
      chunkDefinitions_append_of_statement hopen hsemicolon]

/-! ### The law -/

/-- Behind the definitions of a first text, leaving out the opening rule of a second one makes no
difference: what it defines is defined again later, or has that value already, and the new names
come in the same order without it. -/
structure OpeningIsIdle (vs : Variables) (opening later : List (Text × Text)) : Prop where
  /-- A value that no later rule replaces is there already. -/
  value_eq : ∀ name value, (OrderedMap.ofList opening).get? name = some value →
    (OrderedMap.ofList later).get? name = none → vs.get? name = some value
  /-- The new names come in the same order. -/
  order_eq : (OrderedMap.ofList (opening ++ later)).keys.filter (fun n => !vs.contains n)
    = (OrderedMap.ofList later).keys.filter fun n => !vs.contains n

/-- Leaving the opening rule out makes no difference exactly if that rule is idle. -/
lemma openingIsIdle_iff {vs : Variables} {opening later : List (Text × Text)} :
    vs.insertMany later = vs.insertMany (opening ++ later) ↔ OpeningIsIdle vs opening later := by
  have hget : ∀ n, (OrderedMap.ofList (opening ++ later)).get? n
      = ((OrderedMap.ofList later).get? n).or ((OrderedMap.ofList opening).get? n) := by
    intro n
    rw [OrderedMap.ofList, OrderedMap.insertMany_append, OrderedMap.get?_insertMany]
    rfl
  rw [OrderedMap.insertMany_eq_iff]
  constructor
  · rintro ⟨hvalues, horder⟩
    refine ⟨fun n value hopening hlater => ?_, horder.symm⟩
    have hn := hvalues n
    rwa [hget, hlater, hopening, Option.none_or, Option.none_or, Option.some_or] at hn
  · rintro ⟨hvalues, horder⟩
    refine ⟨fun n => ?_, horder.symm⟩
    rw [hget]
    cases hlater : (OrderedMap.ofList later).get? n with
    | some value => rw [Option.some_or, Option.some_or, Option.some_or]
    | none =>
      rw [Option.none_or, Option.none_or]
      cases hopening : (OrderedMap.ofList opening).get? n with
      | some value => rw [hvalues n value hopening hlater, Option.some_or]
      | none => rw [Option.none_or]

/-- Where the definitions of a joint text are known, so are its variables. -/
lemma variablesOf_append {ds : List (Text × Text)}
    (hremove : removeComments (A ++ B) = removeComments A ++ removeComments B)
    (hds : definitions a (removeComments A ++ removeComments B)
      = definitions a (removeComments A) ++ ds) :
    variablesOf a (A ++ B) = (variablesOf a A).insertMany ds := by
  rw [variablesOf_eq, hremove, hds, OrderedMap.ofList, OrderedMap.insertMany_append,
    variablesOf_eq]
  rfl

/-- Behind a rule, the variables of a text update those that are there. -/
lemma variablesOf_append_of_rule (hclosed : CommentClosed A) (hrule : lastMark? A = some '\x7d') :
    variablesOf a (A ++ B) = (variablesOf a A).insertMany (variablesOf a B).entries := by
  rw [variablesOf_eq _ B, OrderedMap.insertMany_entries_ofList]
  exact variablesOf_append (removeComments_append hclosed hrule (by decide) B)
    (definitions_append_of_blank (blank_behindRules hrule) _)

/-- Behind a statement, the definitions of a text without its opening rule do. -/
lemma variablesOf_append_of_statement (hclosed : CommentClosed A) (htop : EndsAtTopLevel A)
    (hstatement : lastMark? A = some ';') :
    variablesOf .scopes (A ++ B)
      = (variablesOf .scopes A).insertMany (laterDefinitions .scopes (removeComments B)) :=
  variablesOf_append (removeComments_append hclosed hstatement (by decide) B)
    (definitions_append_of_statement htop (semicolon_mem_behindRules hstatement) _)

/-- Behind a text that leaves no comment open and ends at top level with a rule or a statement, the
variables of a second text update those of the first one exactly when the first one ends with a
rule, or the opening rule of the second one makes no difference. -/
theorem variablesOf_append_iff (hclosed : CommentClosed A) (htop : EndsAtTopLevel A)
    (hend : lastMark? A = some '\x7d' ∨ lastMark? A = some ';') (B : Text) :
    variablesOf .scopes (A ++ B)
        = (variablesOf .scopes A).insertMany (variablesOf .scopes B).entries
      ↔ lastMark? A = some '\x7d' ∨
        OpeningIsIdle (variablesOf .scopes A) (openingDefinitions .scopes (removeComments B))
          (laterDefinitions .scopes (removeComments B)) := by
  rcases hend with hrule | hstatement
  · exact iff_of_true (variablesOf_append_of_rule hclosed hrule) (Or.inl hrule)
  · have hnot : ¬ lastMark? A = some '\x7d' := by
      rw [hstatement]
      decide
    rw [variablesOf_append_of_statement hclosed htop hstatement, variablesOf_eq _ B,
      OrderedMap.insertMany_entries_ofList, definitions_eq, openingIsIdle_iff, or_iff_right hnot]

/-- Behind an import, a rule that the same text defines again makes no difference. -/
theorem variablesOf_append_of_redefined :
    let A := "@import \"base.css\";\n".toList
    let B := ":root \x7b --a: 1; \x7d .dark \x7b --a: 2; \x7d".toList
    CommentClosed A ∧ EndsAtTopLevel A ∧ lastMark? A = some ';' ∧
      variablesOf .scopes (A ++ B)
        = (variablesOf .scopes A).insertMany (variablesOf .scopes B).entries := by
  intro A B
  have hclosed : CommentClosed A := by decide +kernel
  have htop : EndsAtTopLevel A := by decide +kernel
  have hmark : lastMark? A = some ';' := by decide +kernel
  have hopening : openingDefinitions .scopes (removeComments B)
      = [("--a".toList, "1".toList)] := by decide +kernel
  have hlater : laterDefinitions .scopes (removeComments B)
      = [("--a".toList, "2".toList)] := by decide +kernel
  refine ⟨hclosed, htop, hmark, ?_⟩
  refine (variablesOf_append_iff hclosed htop (Or.inr hmark) B).mpr (Or.inr ?_)
  rw [hopening, hlater]
  refine ⟨fun name value hfirst hlast => ?_, by decide +kernel⟩
  rw [OrderedMap.ofList, OrderedMap.insertMany_cons, OrderedMap.insertMany_nil,
    OrderedMap.get?_insert] at hfirst hlast
  split at hlast
  · cases hlast
  · next hname =>
    rw [if_neg hname] at hfirst
    cases hfirst

/-- Behind an import, the rule that a style text opens with is lost. -/
theorem variablesOf_append_import_ne :
    let A := "@import \"base.css\";".toList
    let B := ":root \x7b --a: 1; \x7d".toList
    CommentClosed A ∧ EndsAtTopLevel A ∧ lastMark? A = some ';' ∧
      variablesOf .scopes (A ++ B)
        ≠ (variablesOf .scopes A).insertMany (variablesOf .scopes B).entries := by
  intro A B
  refine ⟨by decide +kernel, by decide +kernel, by decide +kernel, fun h => ?_⟩
  have hentries := congrArg OrderedMap.entries h
  revert hentries
  decide +kernel

end Style

end DesignTokens
