import DesignTokens.Proofs.Style.Selector
import DesignTokens.Style.Variables

/-!
# Chunks and what they define

The variables of a text are read chunk by chunk, and what a chunk defines does not depend on the
line on which it begins (`variablesOf_eq`).  When two texts are put together, the first chunk of the
second one grows by what stands behind the last rule of the first one, and no other chunk changes
(`chunks_append`).  Such an addition matters only to a chunk with a single opening brace, whose
selector it becomes a part of.  Without chunks, the rules of a text are those of its blocks that
declare something under some selector (`exists_mem_rules_iff`).
-/

namespace DesignTokens

namespace Text

variable {a : Char} {b t x : Text}

/-- Without the character there is no last occurrence to cut at. -/
lemma cutLast?_of_not_mem (h : a ∉ t) : cutLast? a t = none := by
  induction t with
  | nil => rfl
  | cons c t ih =>
    rw [List.mem_cons, not_or] at h
    rw [cutLast?, ih h.2]
    exact if_neg (Ne.symm h.1)

/-- A text is cut at the last occurrence of the character. -/
lemma cutLast?_append (hx : a ∉ x) (b : Text) : cutLast? a (b ++ a :: x) = some (b, x) := by
  induction b with
  | nil =>
    rw [List.nil_append, cutLast?, cutLast?_of_not_mem hx]
    exact if_pos rfl
  | cons c b ih => rw [List.cons_append, cutLast?, ih]

end Text

namespace Style

variable {a : Acceptance} {block chunk head raw t v x : Text}

/-! ### What a rule says -/

/-- What a rule says, wherever it stands. -/
def Rule.content (r : Rule) : Text × Declarations :=
  (r.selector, r.declarations)

/-- What the rule with a given block says, if there is one. -/
def blockContent? (raw block : Text) : Option (Text × Declarations) :=
  if Text.isBlankText raw || (blockDeclarations block).isEmpty then none
  else some (Text.collapse raw, blockDeclarations block)

/-- A block says something if its selector is not blank and it declares something. -/
lemma blockContent?_eq_some_iff {content : Text × Declarations} :
    blockContent? raw block = some content ↔ Text.isBlankText raw = false ∧
      (blockDeclarations block).isEmpty = false ∧
      (Text.collapse raw, blockDeclarations block) = content := by
  rw [blockContent?]
  split
  · next h =>
    rw [Bool.or_eq_true] at h
    constructor
    · intro hnone
      cases hnone
    · rintro ⟨hblank, hempty, -⟩
      rw [hblank, hempty] at h
      cases h <;> contradiction
  · next h =>
    rw [Bool.not_eq_true, Bool.or_eq_false_iff] at h
    rw [Option.some.injEq]
    exact ⟨fun heq => ⟨h.1, h.2, heq⟩, fun heq => heq.2.2⟩

/-- Without an opening brace a chunk has no rule. -/
lemma ofChunk?_of_not_mem (h : '\x7b' ∉ chunk) (line : Nat) : Rule.ofChunk? line chunk = none := by
  rw [Rule.ofChunk?, Text.cutLast?_of_not_mem h]
  rfl

/-- A chunk says what its last block says under what stands before it. -/
lemma map_content_ofChunk? (h : Text.cutLast? '\x7b' chunk = some (head, block)) (line : Nat) :
    (Rule.ofChunk? line chunk).map Rule.content
      = blockContent? (((Text.cutLast? '\x7b' head).map Prod.snd).getD head) block := by
  rw [Rule.ofChunk?, h, blockContent?]
  simp only [Option.bind_eq_bind, Option.bind_some]
  split
  · rfl
  · rfl

/-- A selector and its block, behind what comes before them in their chunk. -/
lemma map_content_ofChunk?_block {front : Text} (hfront : front = [] ∨ ∃ f, front = f ++ ['\x7b'])
    (hraw : '\x7b' ∉ raw) (hblock : '\x7b' ∉ block) :
    (Rule.ofChunk? 1 (front ++ (raw ++ '\x7b' :: block))).map Rule.content
      = blockContent? raw block := by
  rcases hfront with rfl | ⟨f, rfl⟩
  · rw [List.nil_append, map_content_ofChunk? (Text.cutLast?_append hblock raw),
      Text.cutLast?_of_not_mem hraw]
    rfl
  · have hcut := Text.cutLast?_append hblock (f ++ '\x7b' :: raw)
    rw [List.append_assoc, List.cons_append] at hcut
    rw [List.append_assoc, List.singleton_append, map_content_ofChunk? hcut,
      Text.cutLast?_append hraw]
    rfl

/-- The rules say the same whatever lines they stand on. -/
lemma map_content_rulesOfChunks (line : Nat) (cs : List Text) :
    (rulesOfChunks line cs).map Rule.content
      = cs.filterMap fun c => (Rule.ofChunk? 1 c).map Rule.content := by
  induction cs generalizing line with
  | nil => rfl
  | cons c cs ih =>
    have hfirst : (Rule.ofChunk? line c).map Rule.content
        = (Rule.ofChunk? 1 c).map Rule.content := by
      by_cases hopen : '\x7b' ∈ c
      · obtain ⟨head, block, rfl, hblock⟩ := Text.exists_last_of_mem hopen
        have hcut := Text.cutLast?_append hblock head
        rw [map_content_ofChunk? hcut, map_content_ofChunk? hcut]
      · rw [ofChunk?_of_not_mem hopen, ofChunk?_of_not_mem hopen]
    rw [rulesOfChunks, List.map_append, ih, List.filterMap_cons, ← hfirst]
    cases Rule.ofChunk? line c with
    | none => rfl
    | some r => rfl

/-- A chunk has no opening brace, or one, or several. -/
lemma chunk_cases (chunk : Text) :
    '\x7b' ∉ chunk ∨
      (∃ raw block, '\x7b' ∉ raw ∧ '\x7b' ∉ block ∧ chunk = raw ++ '\x7b' :: block) ∨
      ∃ front raw block, '\x7b' ∉ raw ∧ '\x7b' ∉ block ∧
        chunk = front ++ '\x7b' :: (raw ++ '\x7b' :: block) := by
  by_cases hopen : '\x7b' ∈ chunk
  · obtain ⟨head, block, rfl, hblock⟩ := Text.exists_last_of_mem hopen
    by_cases hhead : '\x7b' ∈ head
    · obtain ⟨front, raw, rfl, hraw⟩ := Text.exists_last_of_mem hhead
      exact Or.inr (Or.inr ⟨front, raw, block, hraw, hblock, by rw [List.append_assoc]; rfl⟩)
    · exact Or.inr (Or.inl ⟨head, block, hhead, hblock, rfl⟩)
  · exact Or.inl hopen

/-! ### Definitions of a chunk -/

/-- The variables that a block defines under a selector. -/
def blockDefinitions (a : Acceptance) (raw block : Text) : List (Text × Text) :=
  if a.selector (Text.collapse raw) then
    (blockDeclarations block).entries.filter fun d => isCustomProperty d.1
  else []

/-- The variables that the rule of a chunk defines, if it has one. -/
def chunkDefinitions (a : Acceptance) (chunk : Text) : List (Text × Text) :=
  ((Rule.ofChunk? 1 chunk).toList.filter fun r => a.selector r.selector).flatMap
    Rule.customProperties

/-- The variables that a text without comments defines, in order and with repetitions. -/
def definitions (a : Acceptance) (t : Text) : List (Text × Text) :=
  (chunks t).flatMap (chunkDefinitions a)

/-- The variables that a selector with declarations defines. -/
def contentDefinitions (a : Acceptance) (content : Text × Declarations) : List (Text × Text) :=
  if a.selector content.1 then content.2.entries.filter fun d => isCustomProperty d.1 else []

/-- What rules define depends on what they say only. -/
lemma flatMap_customProperties (a : Acceptance) (rs : List Rule) :
    (rs.filter fun r => a.selector r.selector).flatMap Rule.customProperties
      = (rs.map Rule.content).flatMap (contentDefinitions a) := by
  induction rs with
  | nil => rfl
  | cons r rs ih =>
    rw [List.map_cons, List.flatMap_cons, ← ih, contentDefinitions, Rule.content, List.filter_cons]
    by_cases hr : a.selector r.selector
    · rw [if_pos hr, if_pos hr, List.flatMap_cons, Rule.customProperties]
    · rw [if_neg hr, if_neg hr, List.nil_append]

/-- A chunk defines what its rule says. -/
lemma chunkDefinitions_eq (a : Acceptance) (chunk : Text) :
    chunkDefinitions a chunk
      = ((Rule.ofChunk? 1 chunk).map Rule.content).toList.flatMap (contentDefinitions a) := by
  rw [chunkDefinitions, flatMap_customProperties, Option.toList_map]

/-- A block without a rule defines nothing: a blank selector is not accepted, and without
declarations there are no definitions. -/
lemma flatMap_blockContent? (a : Acceptance) (raw block : Text) :
    (blockContent? raw block).toList.flatMap (contentDefinitions a)
      = blockDefinitions a raw block := by
  cases hcontent : blockContent? raw block with
  | some content =>
    obtain ⟨-, -, rfl⟩ := blockContent?_eq_some_iff.mp hcontent
    rw [Option.toList_some, List.flatMap_singleton, contentDefinitions, blockDefinitions]
  | none =>
    rw [blockContent?, ite_eq_left_iff] at hcontent
    rw [Option.toList_none, List.flatMap_nil, blockDefinitions]
    by_cases hblank : Text.isBlankText raw
    · have hraw : Text.collapse raw = [] :=
        Text.collapse_of_blank fun c hc => List.all_eq_true.mp hblank c hc
      rw [hraw, selector_nil]
      rfl
    · have hempty : (blockDeclarations block).isEmpty := by
        by_contra hempty
        exact absurd (hcontent (by simp [hblank, hempty])) (by simp)
      have hentries : (blockDeclarations block).entries = [] := List.isEmpty_iff.mp hempty
      rw [hentries, List.filter_nil, ite_self]

/-- A chunk without an opening brace defines nothing. -/
lemma chunkDefinitions_of_not_mem (h : '\x7b' ∉ chunk) : chunkDefinitions a chunk = [] := by
  rw [chunkDefinitions, ofChunk?_of_not_mem h]
  rfl

/-- With one opening brace, the selector begins where the chunk does. -/
lemma chunkDefinitions_of_one (hraw : '\x7b' ∉ raw) (hblock : '\x7b' ∉ block) :
    chunkDefinitions a (raw ++ '\x7b' :: block) = blockDefinitions a raw block := by
  have hcontent := map_content_ofChunk?_block (Or.inl rfl) hraw hblock
  rw [List.nil_append] at hcontent
  rw [chunkDefinitions_eq, hcontent, flatMap_blockContent?]

/-- With more opening braces, nothing before the last but one counts. -/
lemma chunkDefinitions_of_two (hraw : '\x7b' ∉ raw) (hblock : '\x7b' ∉ block) (front : Text) :
    chunkDefinitions a (front ++ '\x7b' :: (raw ++ '\x7b' :: block))
      = blockDefinitions a raw block := by
  have hcontent := map_content_ofChunk?_block (Or.inr ⟨front, rfl⟩) hraw hblock
  rw [← List.append_cons] at hcontent
  rw [chunkDefinitions_eq, hcontent, flatMap_blockContent?]

/-! ### Definitions of a text -/

/-- The variables of a text are what its chunks define. -/
theorem variablesOf_eq (a : Acceptance) (t : Text) :
    variablesOf a t = OrderedMap.ofList (definitions a (removeComments t)) := by
  have hchunk : chunkDefinitions a = fun c =>
      ((Rule.ofChunk? 1 c).map Rule.content).toList.flatMap (contentDefinitions a) :=
    funext (chunkDefinitions_eq a)
  rw [variablesOf, rules, flatMap_customProperties, map_content_rulesOfChunks, definitions, hchunk,
    List.filterMap_eq_flatMap_toList, List.flatMap_assoc]

/-! ### Chunks of a joint text -/

/-- What stands behind the last closing brace. -/
def behindRules (t : Text) : Text :=
  ((Text.cutLast? '\x7d' t).map Prod.snd).getD t

/-- Where no brace is closed, the whole text stands behind the last rule. -/
lemma behindRules_of_not_mem (ht : '\x7d' ∉ t) : behindRules t = t := by
  rw [behindRules, Text.cutLast?_of_not_mem ht]
  rfl

/-- Behind the last rule stands what follows the last closing brace. -/
lemma behindRules_close (hx : '\x7d' ∉ x) (t : Text) : behindRules (t ++ '\x7d' :: x) = x := by
  rw [behindRules, Text.cutLast?_append hx]
  rfl

/-- What is added without a closing brace stands behind the last rule too. -/
lemma behindRules_append (hx : '\x7d' ∉ x) (t : Text) :
    behindRules (t ++ x) = behindRules t ++ x := by
  by_cases hclose : '\x7d' ∈ t
  · obtain ⟨b, y, rfl, hy⟩ := Text.exists_last_of_mem hclose
    rw [List.append_assoc, List.cons_append, behindRules_close (List.not_mem_append hy hx),
      behindRules_close hy]
  · rw [behindRules_of_not_mem (List.not_mem_append hclose hx), behindRules_of_not_mem hclose]

/-- What has no closing brace becomes the front of the first chunk. -/
lemma chunks_append_of_not_mem (hx : '\x7d' ∉ x) (v : Text) :
    chunks (x ++ v) = (chunks v).modifyHead (x ++ ·) := by
  induction x with
  | nil =>
    have hid : ∀ cs : List Text, cs.modifyHead (([] : Text) ++ ·) = cs := by
      intro cs
      cases cs <;> rfl
    rw [List.nil_append, hid]
  | cons c x ih =>
    rw [List.mem_cons, not_or] at hx
    have hdrop : ∀ ps : List Text, (ps.modifyHead (List.cons c)).dropLast
        = ps.dropLast.modifyHead (List.cons c) := by
      intro ps
      match ps with
      | [] => rfl
      | [_] => rfl
      | _ :: _ :: _ => rfl
    have hjoin : ∀ cs : List Text, (cs.modifyHead (x ++ ·)).modifyHead (List.cons c)
        = cs.modifyHead (c :: x ++ ·) := by
      intro cs
      cases cs <;> rfl
    rw [chunks, List.cons_append, Text.splitOn_cons_of_ne (Ne.symm hx.1), hdrop, ← chunks, ih hx.2,
      hjoin]

/-- Where two texts are put together, the first chunk of the second one grows by what stands
behind the last rule of the first one. -/
theorem chunks_append (t v : Text) :
    chunks (t ++ v) = chunks t ++ (chunks v).modifyHead (behindRules t ++ ·) := by
  by_cases hclose : '\x7d' ∈ t
  · obtain ⟨b, x, rfl, hx⟩ := Text.exists_last_of_mem hclose
    have hchunks : ∀ w : Text, chunks (b ++ '\x7d' :: w) = b.splitOn '\x7d' ++ chunks w := by
      intro w
      rw [chunks, List.splitOn_append_cons_self,
        List.dropLast_append_of_ne_nil (List.splitOn_ne_nil _ _), chunks]
    have hlast : chunks x = [] := by
      rw [chunks, List.splitOn_eq_singleton hx]
      rfl
    rw [List.append_assoc, List.cons_append, hchunks, hchunks, hlast, List.append_nil,
      chunks_append_of_not_mem hx, behindRules_close hx]
  · have hnone : chunks t = [] := by
      rw [chunks, List.splitOn_eq_singleton hclose]
      rfl
    rw [chunks_append_of_not_mem hclose, hnone, List.nil_append, behindRules_of_not_mem hclose]

/-- What stands before the first closing brace is the first chunk. -/
lemma chunks_cons (hclose : '\x7d' ∉ chunk) (t : Text) :
    chunks (chunk ++ '\x7d' :: t) = chunk :: chunks t := by
  rw [chunks, List.splitOn_append_cons_self, List.splitOn_eq_singleton hclose,
    List.dropLast_append_of_ne_nil (List.splitOn_ne_nil _ _), chunks, List.singleton_append]

/-! ### Blocks in their places -/

/-- A text is one of the chunks of another one where it stands behind a closing brace, or at the
front, and in front of a closing brace. -/
lemma mem_chunks_iff :
    chunk ∈ chunks t ↔ ∃ x y, t = x ++ chunk ++ '\x7d' :: y ∧ (x = [] ∨ ∃ f, x = f ++ ['\x7d']) ∧
      '\x7d' ∉ chunk := by
  constructor
  · intro h
    obtain ⟨x, y, ht, hcut⟩ := Text.exists_of_mem_dropLast_splitOn h
    exact ⟨x, y, ht, hcut.front, hcut.not_mem⟩
  · rintro ⟨x, y, rfl, hx, hchunk⟩
    have hempty : behindRules x = [] := by
      rcases hx with rfl | ⟨f, rfl⟩
      · rfl
      · exact behindRules_close List.not_mem_nil f
    rw [List.append_assoc, chunks_append, hempty, chunks_cons hchunk]
    exact List.mem_append_right _ List.mem_cons_self

/-- A selector and its block stand in a text without comments: the selector begins behind a brace or
at the front of the text, and neither of them has a brace. -/
structure HasBlock (before raw block behind t : Text) : Prop where
  /-- The four parts and the two braces make up the text. -/
  text : t = before ++ (raw ++ '\x7b' :: (block ++ '\x7d' :: behind))
  /-- A brace stands before the selector, or nothing does. -/
  front : before = [] ∨ ∃ f, before = f ++ ['\x7b'] ∨ before = f ++ ['\x7d']
  /-- The selector has no brace. -/
  selector : '\x7b' ∉ raw ∧ '\x7d' ∉ raw
  /-- The block has no brace. -/
  block : '\x7b' ∉ block ∧ '\x7d' ∉ block

/-- The chunk of a selector begins behind the last closing brace before it. -/
lemma exists_front_of_chunk {before : Text}
    (h : before = [] ∨ ∃ f, before = f ++ ['\x7b'] ∨ before = f ++ ['\x7d']) :
    ∃ x front, before = x ++ front ∧ (x = [] ∨ ∃ f, x = f ++ ['\x7d']) ∧
      (front = [] ∨ ∃ f, front = f ++ ['\x7b']) ∧ '\x7d' ∉ front := by
  rcases h with rfl | ⟨f, rfl | rfl⟩
  · exact ⟨[], [], rfl, Or.inl rfl, Or.inl rfl, List.not_mem_nil⟩
  · by_cases hf : '\x7d' ∈ f
    · obtain ⟨b, y, rfl, hy⟩ := Text.exists_last_of_mem hf
      exact ⟨b ++ ['\x7d'], y ++ ['\x7b'], by simp, Or.inr ⟨b, rfl⟩, Or.inr ⟨y, rfl⟩,
        List.not_mem_append hy (by decide)⟩
    · exact ⟨[], f ++ ['\x7b'], rfl, Or.inl rfl, Or.inr ⟨f, rfl⟩,
        List.not_mem_append hf (by decide)⟩
  · exact ⟨f ++ ['\x7d'], [], by simp, Or.inr ⟨f, rfl⟩, Or.inl rfl, List.not_mem_nil⟩

/-- The rules of a text are its blocks that declare something under some selector. -/
theorem exists_mem_rules_iff {content : Text × Declarations} :
    (∃ r ∈ rules t, r.content = content) ↔
      ∃ before raw block behind, HasBlock before raw block behind (removeComments t) ∧
        blockContent? raw block = some content := by
  rw [← List.mem_map, rules, map_content_rulesOfChunks, List.mem_filterMap]
  constructor
  · rintro ⟨chunk, hchunk, hcontent⟩
    obtain ⟨x, y, ht, hx, hclose⟩ := mem_chunks_iff.mp hchunk
    -- The selector stands before the last brace of its chunk, and behind the brace before that.
    rcases chunk_cases chunk with hopen | ⟨raw, block, hraw, hblock, rfl⟩ |
      ⟨front, raw, block, hraw, hblock, rfl⟩
    · rw [ofChunk?_of_not_mem hopen] at hcontent
      cases hcontent
    · rw [← List.nil_append (raw ++ _), map_content_ofChunk?_block (Or.inl rfl) hraw hblock]
        at hcontent
      simp only [List.mem_append, List.mem_cons, not_or] at hclose
      refine ⟨x, raw, block, y, ⟨by simp [ht], ?_, ⟨hraw, hclose.1⟩, ⟨hblock, hclose.2.2⟩⟩,
        hcontent⟩
      rcases hx with rfl | ⟨f, rfl⟩
      · exact Or.inl rfl
      · exact Or.inr ⟨f, Or.inr rfl⟩
    · rw [List.append_cons, map_content_ofChunk?_block (Or.inr ⟨front, rfl⟩) hraw hblock]
        at hcontent
      simp only [List.mem_append, List.mem_cons, not_or] at hclose
      refine ⟨x ++ (front ++ ['\x7b']), raw, block, y, ⟨by simp [ht], ?_, ⟨hraw, hclose.2.2.1⟩,
        ⟨hblock, hclose.2.2.2.2⟩⟩, hcontent⟩
      exact Or.inr ⟨x ++ front, Or.inl (List.append_assoc x front _).symm⟩
  · rintro ⟨before, raw, block, behind, hplace, hcontent⟩
    obtain ⟨x, front, rfl, hx, hfront, hclose⟩ := exists_front_of_chunk hplace.front
    refine ⟨front ++ (raw ++ '\x7b' :: block), mem_chunks_iff.mpr ⟨x, behind, ?_, hx, ?_⟩, ?_⟩
    · rw [hplace.text]
      simp
    · have hbrace : ('\x7d' : Char) ≠ '\x7b' := by decide
      simp only [List.mem_append, List.mem_cons, not_or]
      exact ⟨hclose, hplace.selector.2, hbrace, hplace.block.2⟩
    · rw [map_content_ofChunk?_block hfront hplace.selector.1 hplace.block.1, hcontent]

end Style

end DesignTokens
