import DesignTokens.Proofs.OrderedMap
import DesignTokens.Proofs.Style.Comment
import DesignTokens.Proofs.Style.Rule

/-!
# Rules as they are written

A rule is written as a selector and a block of declarations, with white space around every piece and
with or without a semicolon behind the last declaration.  `Layout` lists the pieces of a rule, and
`Layout.render` puts the marks between them.  Where no piece has a mark that would end it, the cuts
at closing braces, at opening braces, at semicolons and at colons are the places of these marks, so
reading finds the pieces again (`blockDeclarations_block`, `chunks_render`).

What a rule says does not depend on where it stands, but its line does: it is counted from one rule
to the next.  `getElem?_rulesOfChunks` carries the count along a whole text, and `rules_of_written`
says that reading undoes writing.
-/

namespace DesignTokens

namespace Style

variable {α π ρ : Type} {name t value : Text}

/-! ### Pieces and marks -/

/-- The pieces of a written rule, in their order. -/
structure Layout (π : Type) where
  /-- What stands before the block. -/
  selector : π
  /-- The declarations: what stands before and behind their colons. -/
  declarations : List (π × π)
  /-- What stands behind the semicolon of the last declaration, if it has one. -/
  ending : Option π

namespace Layout

/-- The same rule with other pieces. -/
def map (f : π → ρ) (r : Layout π) : Layout ρ where
  selector := f r.selector
  declarations := r.declarations.map fun d => (f d.1, f d.2)
  ending := r.ending.map f

/-- What stands between the semicolons of the block. -/
def parts (mark : Char → α) (r : Layout (List α)) : List (List α) :=
  r.declarations.map (fun d => d.1 ++ mark ':' :: d.2) ++ r.ending.toList

/-- The block, without its braces. -/
def block (mark : Char → α) (r : Layout (List α)) : List α :=
  [mark ';'].intercalate (r.parts mark)

/-- The whole rule. -/
def render (mark : Char → α) (r : Layout (List α)) : List α :=
  r.selector ++ mark '\x7b' :: (r.block mark ++ [mark '\x7d'])

/-- Each piece may be spelled out on its own. -/
lemma flatMap_render {mark : Char → α} {f : α → Text} (hmark : ∀ c, f (mark c) = [c])
    (r : Layout (List α)) :
    (r.render mark).flatMap f = (r.map fun p => p.flatMap f).render id := by
  have hjoin : ∀ ps : List (List α), ([mark ';'].intercalate ps).flatMap f
      = [';'].intercalate (ps.map fun p => p.flatMap f) := by
    intro ps
    induction ps with
    | nil => rfl
    | cons p ps ih =>
      cases ps with
      | nil => simp
      | cons q ps =>
        rw [List.map_cons, List.map_cons, List.intercalate_cons_cons, List.intercalate_cons_cons,
          List.flatMap_append, List.flatMap_append, ih, List.flatMap_singleton, hmark,
          List.map_cons]
  have hparts : (r.parts mark).map (fun p => p.flatMap f)
      = (r.map fun p => p.flatMap f).parts id := by
    rw [parts, parts, map, List.map_append, List.map_map, List.map_map, Option.toList_map]
    simp [Function.comp_def, hmark]
  rw [render, render, block, block, List.flatMap_append, List.flatMap_cons, List.flatMap_append,
    hjoin, hparts, List.flatMap_singleton, hmark, hmark]
  rfl

/-- Whatever holds of the marks and of what is in the pieces holds of all that is in the rule. -/
lemma forall_mem_render {p : α → Prop} {mark : Char → α} {r : Layout (List α)}
    (hmark : ∀ c, p (mark c)) (hselector : ∀ b ∈ r.selector, p b)
    (hnames : ∀ d ∈ r.declarations, ∀ b ∈ d.1, p b)
    (hvalues : ∀ d ∈ r.declarations, ∀ b ∈ d.2, p b) (hending : ∀ e ∈ r.ending, ∀ b ∈ e, p b) :
    ∀ b ∈ r.render mark, p b := by
  have hparts : ∀ q ∈ r.parts mark, ∀ b ∈ q, p b := by
    intro q hq b hb
    rcases List.mem_append.mp hq with hq | hq
    · obtain ⟨d, hd, rfl⟩ := List.mem_map.mp hq
      rw [List.mem_append, List.mem_cons] at hb
      rcases hb with hb | rfl | hb
      · exact hnames d hd b hb
      · exact hmark ':'
      · exact hvalues d hd b hb
    · exact hending q (Option.mem_toList.mp hq) b hb
  intro b hb
  rw [render, List.mem_append, List.mem_cons, List.mem_append, List.mem_singleton] at hb
  rcases hb with hb | rfl | hb | rfl
  · exact hselector b hb
  · exact hmark _
  · rcases Text.mem_of_mem_intercalate hb with rfl | ⟨q, hq, hb⟩
    · exact hmark _
    · exact hparts q hq b hb
  · exact hmark _

end Layout

/-! ### One rule -/

/-- A value may hold any character but a semicolon and braces. -/
lemma isValueChar_iff {c : Char} : isValueChar c ↔ c ≠ ';' ∧ c ≠ '\x7b' ∧ c ≠ '\x7d' := by
  simp [isValueChar, and_assoc]

/-- A value may hold white space. -/
lemma isValueChar_of_blank {c : Char} (hc : isBlank c) : isValueChar c := by
  rw [isValueChar_iff]
  refine ⟨?_, ?_, ?_⟩ <;> rintro rfl <;> revert hc <;> decide

/-- What a name and a value declare, if neither is blank. -/
def written? (d : Text × Text) : Option (Text × Text) :=
  if Text.strip d.1 = [] ∨ Text.collapse d.2 = [] then none
  else some (Text.strip d.1, Text.collapse d.2)

/-- A declaration is cut at its first colon. -/
lemma declaration?_append (h : ':' ∉ name) (value : Text) :
    declaration? (name ++ ':' :: value) = written? (name, value) := by
  have hcolon : ':' ∉ Text.stripLeft name := fun hmem => h (List.dropWhile_subset _ hmem)
  rw [declaration?, Text.strip_append_cons (by decide), Text.cutFirst_append hcolon, written?]
  simp only [Text.strip_stripLeft, Text.collapse_stripRight, Bool.or_eq_true, List.isEmpty_iff]

/-- What is blank declares nothing. -/
lemma declaration?_of_blank (ht : ∀ c ∈ t, isBlank c) : declaration? t = none := by
  rw [declaration?, Text.strip_of_blank ht]
  rfl

namespace Layout

/-- No piece has a mark that would end it, and only white space stands behind the last semicolon. -/
structure IsPlain (r : Layout Text) : Prop where
  /-- No brace is in the selector. -/
  selector : ∀ c ∈ r.selector, c ≠ '\x7b' ∧ c ≠ '\x7d'
  /-- No colon, semicolon or brace is in a name. -/
  names : ∀ d ∈ r.declarations, ∀ c ∈ d.1, isValueChar c ∧ c ≠ ':'
  /-- No semicolon or brace is in a value. -/
  values : ∀ d ∈ r.declarations, ∀ c ∈ d.2, isValueChar c
  /-- There is nothing behind the last semicolon. -/
  ending : ∀ e ∈ r.ending, ∀ c ∈ e, isBlank c

variable {r : Layout Text}

/-- A block is made of characters that a value may have, and of semicolons between its parts. -/
lemma IsPlain.isValueChar (hr : r.IsPlain) : ∀ p ∈ r.parts id, ∀ c ∈ p, isValueChar c := by
  intro p hp c hc
  rcases List.mem_append.mp hp with hp | hp
  · obtain ⟨d, hd, rfl⟩ := List.mem_map.mp hp
    rcases List.mem_append.mp hc with hc | hc
    · exact (hr.names d hd c hc).1
    · rcases List.mem_cons.mp hc with rfl | hc
      · decide
      · exact hr.values d hd c hc
  · exact isValueChar_of_blank (hr.ending p (Option.mem_toList.mp hp) c hc)

/-- The block of a plain rule has no brace inside. -/
lemma IsPlain.brace_not_mem_block (hr : r.IsPlain) :
    '\x7b' ∉ r.block id ∧ '\x7d' ∉ r.block id := by
  have hblock : ∀ c ∈ r.block id, c ≠ '\x7b' ∧ c ≠ '\x7d' := by
    intro c hc
    rcases Text.mem_of_mem_intercalate hc with rfl | ⟨p, hp, hc⟩
    · decide
    · exact (isValueChar_iff.mp (hr.isValueChar p hp c hc)).2
  exact ⟨fun h => (hblock _ h).1 rfl, fun h => (hblock _ h).2 rfl⟩

/-- The selector of a plain rule has no brace. -/
lemma IsPlain.brace_not_mem_selector (hr : r.IsPlain) :
    '\x7b' ∉ r.selector ∧ '\x7d' ∉ r.selector :=
  ⟨fun h => (hr.selector _ h).1 rfl, fun h => (hr.selector _ h).2 rfl⟩

/-- Reading a block finds the names and values that were written. -/
lemma IsPlain.blockDeclarations_block (hr : r.IsPlain) :
    blockDeclarations (r.block id) = OrderedMap.ofList (r.declarations.filterMap written?) := by
  have hsemicolon : ∀ p ∈ r.parts id, ';' ∉ p := fun p hp h =>
    (isValueChar_iff.mp (hr.isValueChar p hp _ h)).1 rfl
  have hdeclared : (r.declarations.map fun d => d.1 ++ id ':' :: d.2).filterMap declaration?
      = r.declarations.filterMap written? := by
    rw [List.filterMap_map]
    refine List.filterMap_congr fun d hd => ?_
    exact declaration?_append (fun h => (hr.names d hd _ h).2 rfl) d.2
  have hending : r.ending.toList.filterMap declaration? = [] := by
    refine List.filterMap_eq_nil_iff.mpr fun e he => ?_
    exact declaration?_of_blank (hr.ending e (Option.mem_toList.mp he))
  rw [blockDeclarations, block]
  by_cases hparts : r.parts id = []
  · -- A block without parts has the empty text as its only part.
    have hnone := List.append_eq_nil_iff.mp hparts
    rw [List.map_eq_nil_iff] at hnone
    rw [hparts, hnone.1]
    rfl
  · rw [id, List.splitOn_intercalate ';' hsemicolon hparts, parts, List.filterMap_append, hdeclared,
      hending, List.append_nil]

/-- The chunk of a rule: all of it but the closing brace. -/
def chunk (r : Layout Text) : Text :=
  r.selector ++ '\x7b' :: r.block id

/-- A rule is its chunk and a closing brace. -/
lemma render_eq (r : Layout Text) : r.render id = r.chunk ++ ['\x7d'] := by
  simp [render, chunk]

/-- The chunk of a plain rule has no closing brace. -/
lemma IsPlain.brace_not_mem_chunk (hr : r.IsPlain) : '\x7d' ∉ r.chunk := by
  refine List.not_mem_append hr.brace_not_mem_selector.2 ?_
  exact List.not_mem_cons_of_ne_of_not_mem (by decide) hr.brace_not_mem_block.2

/-- The rule that is read where a chunk begins on a line. -/
def read (line : Nat) (r : Layout Text) : Rule where
  selector := Text.collapse r.selector
  declarations := OrderedMap.ofList (r.declarations.filterMap written?)
  line := line + Text.lineFeeds (r.selector.takeWhile isBlank)

/-- A rule that is read as a rule: something stands before its block, and something is declared
in it. -/
structure IsReadable (r : Layout Text) : Prop extends IsPlain r where
  /-- The selector is not blank. -/
  selects : ∃ c ∈ r.selector, isBlank c = false
  /-- There is a declaration. -/
  declares : r.declarations.filterMap written? ≠ []

/-- The chunk of a readable rule is read as the rule. -/
lemma IsReadable.ofChunk?_chunk (hr : r.IsReadable) (line : Nat) :
    Rule.ofChunk? line r.chunk = some (r.read line) := by
  have hselector := hr.brace_not_mem_selector.1
  have hcut := Text.cutLast?_append hr.brace_not_mem_block.1 r.selector
  have hblank : Text.isBlankText r.selector = false := by
    obtain ⟨c, hc, hvisible⟩ := hr.selects
    exact List.all_eq_false.mpr ⟨c, hc, by simp [hvisible]⟩
  have hempty : (OrderedMap.ofList (r.declarations.filterMap written?)).isEmpty = false := by
    obtain ⟨d, ds, hds⟩ := List.exists_cons_of_ne_nil hr.declares
    have hkey : d.1 ∈ (OrderedMap.ofList (r.declarations.filterMap written?)).keys := by
      rw [OrderedMap.mem_keys_ofList, hds]
      exact List.mem_cons_self
    obtain ⟨e, he, -⟩ := List.mem_map.mp hkey
    exact List.isEmpty_eq_false_iff.mpr (List.ne_nil_of_mem he)
  rw [Rule.ofChunk?, chunk, hcut]
  simp only [Option.bind_eq_bind, Option.bind_some, Text.cutLast?_of_not_mem hselector,
    Option.map_none, Option.getD_none, Text.take_blank, hr.blockDeclarations_block, hblank, hempty,
    Bool.or_self, Bool.false_eq_true, if_false, read]

/-! ### A list of rules -/

/-- Cutting at closing braces finds the rules that were written. -/
lemma chunks_render {rs : List (Layout Text)} (hrs : ∀ r ∈ rs, r.IsPlain) (ht : '\x7d' ∉ t) :
    chunks (rs.flatMap (render id) ++ t) = rs.map chunk := by
  induction rs with
  | nil =>
    rw [List.flatMap_nil, List.nil_append, chunks, List.splitOn_eq_singleton ht]
    rfl
  | cons r rs ih =>
    rw [List.forall_mem_cons] at hrs
    rw [List.flatMap_cons, render_eq, List.append_assoc, List.append_assoc, List.singleton_append,
      chunks_cons hrs.1.brace_not_mem_chunk, ih hrs.2, List.map_cons]

/-- The definitions of accepted rules are the custom properties that were written in them. -/
lemma ofList_definitions_render {a : Acceptance} {rs : List (Layout Text)}
    (hrs : ∀ r ∈ rs, r.IsPlain) (ha : ∀ r ∈ rs, a.selector (Text.collapse r.selector))
    (ht : '\x7d' ∉ t) :
    OrderedMap.ofList (definitions a (rs.flatMap (render id) ++ t))
      = OrderedMap.ofList (rs.flatMap fun r =>
          (r.declarations.filterMap written?).filter fun d => isCustomProperty d.1) := by
  have hrule : ∀ r ∈ rs, chunkDefinitions a r.chunk
      = (OrderedMap.ofList ((r.declarations.filterMap written?).filter fun d =>
          isCustomProperty d.1)).entries := by
    intro r hr
    have hplain := hrs r hr
    rw [chunk, chunkDefinitions_of_one hplain.brace_not_mem_selector.1
      hplain.brace_not_mem_block.1, blockDefinitions, if_pos (ha r hr),
      hplain.blockDeclarations_block, OrderedMap.filter_entries_ofList]
  rw [definitions, chunks_render hrs ht, List.flatMap_map, List.flatMap_congr hrule,
    OrderedMap.ofList, OrderedMap.insertMany_flatMap_entries]
  rfl

/-- The closing brace adds no line. -/
lemma lineFeeds_render (r : Layout Text) :
    Text.lineFeeds (r.render id) = Text.lineFeeds r.chunk := by
  rw [render_eq, Text.lineFeeds, List.count_append, List.count_singleton]
  rfl

/-- Each chunk of a readable rule gives one rule. -/
lemma length_rulesOfChunks {rs : List (Layout Text)} (hrs : ∀ r ∈ rs, r.IsReadable) (line : Nat) :
    (rulesOfChunks line (rs.map chunk)).length = rs.length := by
  induction rs generalizing line with
  | nil => rfl
  | cons r rs ih =>
    rw [List.forall_mem_cons] at hrs
    rw [List.map_cons, rulesOfChunks, hrs.1.ofChunk?_chunk, Option.toList_some, List.length_append,
      ih hrs.2, List.length_singleton, List.length_cons, Nat.add_comm]

/-- The rule behind some others begins on the line where they end. -/
lemma getElem?_rulesOfChunks {above : List (Layout Text)} (habove : ∀ r ∈ above, r.IsReadable)
    (hr : r.IsReadable) (below : List (Layout Text)) (line : Nat) :
    (rulesOfChunks line ((above ++ r :: below).map chunk))[above.length]?
      = some (r.read (line + Text.lineFeeds (above.flatMap (render id)))) := by
  induction above generalizing line with
  | nil =>
    rw [List.nil_append, List.map_cons, rulesOfChunks, hr.ofChunk?_chunk]
    rfl
  | cons s above ih =>
    rw [List.forall_mem_cons] at habove
    have hlines : Text.lineFeeds ((s :: above).flatMap (render id))
        = Text.lineFeeds s.chunk + Text.lineFeeds (above.flatMap (render id)) := by
      rw [← lineFeeds_render, Text.lineFeeds, List.flatMap_cons, List.count_append]
      rfl
    rw [List.cons_append, List.map_cons, rulesOfChunks, habove.1.ofChunk?_chunk, Option.toList_some,
      List.singleton_append, List.length_cons, List.getElem?_cons_succ, ih habove.2, hlines,
      Nat.add_assoc]

end Layout

/-! ### Rules with white space -/

/-- A piece with white space around it. -/
structure Spaced where
  /-- The white space before the piece. -/
  before : Text
  /-- The piece. -/
  piece : Text
  /-- The white space behind the piece. -/
  behind : Text
  /-- There is nothing but white space before the piece. -/
  blank_before : ∀ c ∈ before, isBlank c
  /-- There is nothing but white space behind the piece. -/
  blank_behind : ∀ c ∈ behind, isBlank c

namespace Spaced

/-- The piece and the white space. -/
def text (p : Spaced) : Text :=
  p.before ++ (p.piece ++ p.behind)

/-- Trimming a spaced piece trims the piece. -/
lemma strip_text (p : Spaced) : Text.strip p.text = Text.strip p.piece :=
  Text.strip_append_of_blank p.blank_before p.blank_behind p.piece

/-- Collapsing a spaced piece collapses the piece. -/
lemma collapse_text (p : Spaced) : Text.collapse p.text = Text.collapse p.piece := by
  rw [text, Text.collapse_append_of_blank p.blank_before, Text.collapse_append_blank p.blank_behind]

/-- In a spaced piece are white space and the characters of the piece. -/
lemma mem_text {p : Spaced} {c : Char} (h : c ∈ p.text) : isBlank c ∨ c ∈ p.piece := by
  rw [text, List.mem_append, List.mem_append] at h
  rcases h with h | h | h
  · exact Or.inl (p.blank_before c h)
  · exact Or.inr h
  · exact Or.inl (p.blank_behind c h)

end Spaced

/-- A rule that is written with white space around its pieces. -/
structure WrittenRule extends Layout Spaced where
  /-- No brace is in the selector. -/
  selector_plain : ∀ c ∈ selector.piece, c ≠ '\x7b' ∧ c ≠ '\x7d'
  /-- The selector is not blank. -/
  selector_visible : ∃ c ∈ selector.piece, isBlank c = false
  /-- There is a declaration. -/
  declarations_ne_nil : declarations ≠ []
  /-- No colon, semicolon or brace is in a name. -/
  name_plain : ∀ d ∈ declarations, ∀ c ∈ d.1.piece, isValueChar c ∧ c ≠ ':'
  /-- No name is blank. -/
  name_visible : ∀ d ∈ declarations, ∃ c ∈ d.1.piece, isBlank c = false
  /-- No semicolon or brace is in a value. -/
  value_plain : ∀ d ∈ declarations, ∀ c ∈ d.2.piece, isValueChar c
  /-- No value is blank. -/
  value_visible : ∀ d ∈ declarations, ∃ c ∈ d.2.piece, isBlank c = false
  /-- There is nothing but white space behind the last semicolon. -/
  ending_blank : ∀ e ∈ ending, e.piece = []

namespace WrittenRule

/-- The texts of the pieces. -/
def texts (r : WrittenRule) : Layout Text :=
  r.toLayout.map Spaced.text

/-- The text of the rule. -/
def text (r : WrittenRule) : Text :=
  r.texts.render id

/-- Every declaration of a written rule declares something. -/
lemma filterMap_written? (r : WrittenRule) :
    r.texts.declarations.filterMap written?
      = r.declarations.map fun d => (Text.strip d.1.piece, Text.collapse d.2.piece) := by
  rw [texts, Layout.map, List.filterMap_map, ← List.filterMap_eq_map]
  refine List.filterMap_congr fun d hd => ?_
  obtain ⟨c, hc, hname⟩ := r.name_visible d hd
  obtain ⟨c', hc', hvalue⟩ := r.value_visible d hd
  have hsome : ¬ (Text.strip d.1.piece = [] ∨ Text.collapse d.2.piece = []) :=
    not_or.mpr ⟨Text.strip_ne_nil hc hname, List.ne_nil_of_mem (Text.mem_collapse hc' hvalue)⟩
  simp only [Function.comp_apply, written?, Spaced.strip_text, Spaced.collapse_text, if_neg hsome]

/-- A written rule is readable. -/
lemma isReadable (r : WrittenRule) : r.texts.IsReadable where
  selector := by
    intro c hc
    rcases Spaced.mem_text hc with hblank | hc
    · exact (isValueChar_iff.mp (isValueChar_of_blank hblank)).2
    · exact r.selector_plain c hc
  names := by
    intro e he c hc
    obtain ⟨d, hd, rfl⟩ := List.mem_map.mp he
    rcases Spaced.mem_text hc with hblank | hc
    · refine ⟨isValueChar_of_blank hblank, ?_⟩
      rintro rfl
      revert hblank
      decide
    · exact r.name_plain d hd c hc
  values := by
    intro e he c hc
    obtain ⟨d, hd, rfl⟩ := List.mem_map.mp he
    rcases Spaced.mem_text hc with hblank | hc
    · exact isValueChar_of_blank hblank
    · exact r.value_plain d hd c hc
  ending := by
    intro e he c hc
    obtain ⟨p, hp, rfl⟩ := Option.map_eq_some_iff.mp he
    refine (Spaced.mem_text hc).resolve_right fun hc => ?_
    rw [r.ending_blank p hp] at hc
    cases hc
  selects := by
    obtain ⟨c, hc, hvisible⟩ := r.selector_visible
    exact ⟨c, List.mem_append_right _ (List.mem_append_left _ hc), hvisible⟩
  declares := by
    rw [filterMap_written?, ne_eq, List.map_eq_nil_iff]
    exact r.declarations_ne_nil

end WrittenRule

/-- The rule says what has been written behind a text, without the white space around the pieces. -/
structure Restores (rule : Rule) (above : Text) (r : WrittenRule) : Prop where
  /-- The selector is the written one, with single spaces. -/
  selector : rule.selector = Text.collapse r.selector.piece
  /-- The names are the trimmed ones, each in its first place. -/
  names : rule.declarations.keys = (r.declarations.map fun d => Text.strip d.1.piece).eraseDups
  /-- The value of a name is the last one of that name, with single spaces. -/
  values : ∀ name, rule.declarations.get? name
    = History.lastSome? (fun d => if Text.strip d.1.piece = name then
        some (Text.collapse d.2.piece) else none) r.declarations
  /-- The line is that of the first character of the selector that is not white space. -/
  line : rule.line = 1 + Text.lineFeeds
    (above ++ r.selector.before ++ r.selector.piece.takeWhile isBlank)

/-- The rule that is read restores what was written. -/
lemma WrittenRule.restores_read (r : WrittenRule) (above : Text) :
    Restores (r.texts.read (1 + Text.lineFeeds above)) above r where
  selector := r.selector.collapse_text
  names := by
    rw [Layout.read, r.filterMap_written?, OrderedMap.keys_ofList, List.map_map]
    congr 1
    exact lawful_beq_subsingleton _ _
  values := by
    intro name
    rw [Layout.read, r.filterMap_written?, OrderedMap.get?_ofList, History.lastSome?,
      ← List.map_reverse, List.findSome?_map]
    rfl
  line := by
    obtain ⟨c, hc, hvisible⟩ := r.selector_visible
    have hlead : r.texts.selector.takeWhile isBlank
        = r.selector.before ++ r.selector.piece.takeWhile isBlank := by
      have hstop : ¬ (r.selector.piece.takeWhile isBlank).length = r.selector.piece.length := by
        intro hlength
        have hall := List.takeWhile_eq_self_iff.mp
          ((List.takeWhile_prefix isBlank).eq_of_length hlength)
        rw [hall c hc] at hvisible
        cases hvisible
      change (r.selector.before ++ (r.selector.piece ++ r.selector.behind)).takeWhile isBlank = _
      rw [List.takeWhile_append_of_pos r.selector.blank_before, List.takeWhile_append, if_neg hstop]
    rw [Layout.read, hlead]
    simp only [Text.lineFeeds, List.count_append, Nat.add_assoc]

/-- Reading undoes writing: a text of rules is read as these rules. -/
theorem rules_of_written (rs : List WrittenRule) (ht : ∀ c ∈ t, isBlank c)
    (hplain : ¬ ['/', '*'] <:+: rs.flatMap WrittenRule.text ++ t) :
    let text := rs.flatMap WrittenRule.text ++ t
    (rules text).length = rs.length ∧
      ∀ above r below, rs = above ++ r :: below → ∃ rule,
        (rules text)[above.length]? = some rule ∧
          Restores rule (above.flatMap WrittenRule.text) r := by
  intro text
  have hclose : '\x7d' ∉ t := fun h => absurd (ht _ h) (by decide)
  have hrender : ∀ l : List WrittenRule,
      l.flatMap WrittenRule.text = (l.map WrittenRule.texts).flatMap (Layout.render id) := by
    intro l
    rw [List.flatMap_map]
    rfl
  have hreadable : ∀ l : List WrittenRule, ∀ r ∈ l.map WrittenRule.texts, r.IsReadable := by
    intro l r hr
    obtain ⟨r, -, rfl⟩ := List.mem_map.mp hr
    exact r.isReadable
  have hread : rules text = rulesOfChunks 1 ((rs.map WrittenRule.texts).map Layout.chunk) := by
    rw [rules, removeComments_eq_self (comment?_eq_none_of_no_opening hplain), hrender,
      Layout.chunks_render (fun r hr => (hreadable rs r hr).toIsPlain) hclose]
  rw [hread]
  refine ⟨?_, ?_⟩
  · rw [Layout.length_rulesOfChunks (hreadable rs), List.length_map]
  · rintro above r below rfl
    refine ⟨r.texts.read (1 + Text.lineFeeds (above.flatMap WrittenRule.text)), ?_,
      r.restores_read _⟩
    have hfound := Layout.getElem?_rulesOfChunks (hreadable above) r.isReadable
      (below.map WrittenRule.texts) 1
    rwa [List.length_map, ← hrender, ← List.map_cons, ← List.map_append] at hfound

/-- Two rules, the first of which declares a name twice, are read as they were written. -/
theorem rules_of_written_repeated_name :
    let text :=
      "\n:root,\n .x \x7b --a : 1px\n 2px; --b:2;--a:3 ;\n\x7d\n\n .dark\x7b--c:x:y\x7d\n".toList
    ¬ ['/', '*'] <:+: text ∧ (rules text).length = 2 ∧
      (∃ rule, (rules text)[0]? = some rule ∧ rule.selector = ":root, .x".toList ∧
        rule.declarations.keys = ["--a".toList, "--b".toList] ∧
        rule.declarations.get? "--a".toList = some "3".toList ∧ rule.line = 2) ∧
      ∃ rule, (rules text)[1]? = some rule ∧ rule.selector = ".dark".toList ∧
        rule.declarations.get? "--c".toList = some "x:y".toList ∧ rule.line = 7 := by
  intro text
  have hplain : ¬ ['/', '*'] <:+: text := by decide +kernel
  let first : WrittenRule :=
    { selector := ⟨"\n".toList, ":root,\n .x".toList, " ".toList, by decide, by decide⟩
      declarations :=
        [(⟨" ".toList, "--a".toList, " ".toList, by decide, by decide⟩,
            ⟨" ".toList, "1px\n 2px".toList, [], by decide, by decide⟩),
          (⟨" ".toList, "--b".toList, [], by decide, by decide⟩,
            ⟨[], "2".toList, [], by decide, by decide⟩),
          (⟨[], "--a".toList, [], by decide, by decide⟩,
            ⟨[], "3".toList, " ".toList, by decide, by decide⟩)]
      ending := some ⟨"\n".toList, [], [], by decide, by decide⟩
      selector_plain := by decide
      selector_visible := by decide
      declarations_ne_nil := by simp
      name_plain := by decide
      name_visible := by decide
      value_plain := by decide
      value_visible := by decide
      ending_blank := by simp }
  let second : WrittenRule :=
    { selector := ⟨"\n\n ".toList, ".dark".toList, [], by decide, by decide⟩
      declarations :=
        [(⟨[], "--c".toList, [], by decide, by decide⟩,
            ⟨[], "x:y".toList, [], by decide, by decide⟩)]
      ending := none
      selector_plain := by decide
      selector_visible := by decide
      declarations_ne_nil := by simp
      name_plain := by decide
      name_visible := by decide
      value_plain := by decide
      value_visible := by decide
      ending_blank := by simp }
  have htext : [first, second].flatMap WrittenRule.text ++ ['\n'] = text := by decide +kernel
  obtain ⟨hlength, hread⟩ := rules_of_written [first, second] (t := ['\n']) (by decide)
    (by rw [htext]; exact hplain)
  rw [htext] at hlength hread
  obtain ⟨r₁, hr₁, hfirst⟩ := hread [] first [second] rfl
  obtain ⟨r₂, hr₂, hsecond⟩ := hread [first] second [] rfl
  refine ⟨hplain, hlength, ⟨r₁, hr₁, ?_, ?_, ?_, ?_⟩, r₂, hr₂, ?_, ?_, ?_⟩
  · rw [hfirst.selector]
    decide +kernel
  · rw [hfirst.names]
    decide +kernel
  · rw [hfirst.values]
    decide +kernel
  · rw [hfirst.line]
    decide +kernel
  · rw [hsecond.selector]
    decide +kernel
  · rw [hsecond.values]
    decide +kernel
  · rw [hsecond.line]
    decide +kernel

end Style

end DesignTokens
