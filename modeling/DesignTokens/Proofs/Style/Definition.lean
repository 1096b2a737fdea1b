import DesignTokens.Proofs.OrderedMap
import DesignTokens.Proofs.Style.Comment
import DesignTokens.Proofs.Style.Reference
import DesignTokens.Proofs.Style.Rule

/-!
# Definitions and the cheap look for them

The cheap look at a text asks for a name of name characters, a value and a semicolon, anywhere
outside comments (`hasDefinition_iff`).  The reader of variables asks for less: the last declaration
of a block needs no semicolon, and a name is whatever stands before the colon, if it begins with two
dashes.  So the look finds what is declared if a semicolon ends the declaration and the name ends as
a plain name does, and only then can it be relied on (`hasDefinition_of_declares_iff`).
-/

namespace DesignTokens

namespace Text

variable {a : Char} {p q x y : Text}

/-- Where two texts have a character, and the second one does not have it again, either it is the
same place or the first one has it further to the front. -/
lemma eq_or_exists_of_append_cons_eq (hy : a ∉ y) (h : p ++ a :: x = q ++ a :: y) :
    p = q ∨ ∃ w, q = p ++ a :: w := by
  rcases List.append_eq_append_iff.mp h with ⟨s, rfl, hs⟩ | ⟨s, rfl, hs⟩
  · cases s with
    | nil => exact Or.inl (List.append_nil p).symm
    | cons c s =>
      obtain ⟨rfl, -⟩ := List.cons.inj hs
      exact Or.inr ⟨s, rfl⟩
  · cases s with
    | nil => exact Or.inl (List.append_nil q)
    | cons c s =>
      obtain ⟨-, rfl⟩ := List.cons.inj hs
      exact absurd (List.mem_append_right s List.mem_cons_self) hy

end Text

namespace Style

variable {a : Acceptance} {ended : Bool} {block name part t value : Text} {c : Char}

/-! ### The cheap look -/

/-- A definition is a plain name, a colon, a value and a semicolon, with white space before the
colon. -/
lemma definitionAt_iff :
    definitionAt t ↔ ∃ ns b v rest, (ns ≠ [] ∧ ∀ c ∈ ns, isNameChar c) ∧ (∀ c ∈ b, isBlank c) ∧
      (v ≠ [] ∧ ∀ c ∈ v, isValueChar c) ∧
      t = '-' :: '-' :: (ns ++ (b ++ ':' :: (v ++ ';' :: rest))) := by
  constructor
  · intro h
    rw [definitionAt] at h
    split at h
    · cases h
    · next name u hname =>
      obtain ⟨ns, hne, hns, -, rfl, rfl⟩ := referenceName?_eq_some_iff.mp hname
      obtain ⟨b, hb, hu⟩ := Text.exists_stripLeft u
      split at h
      · next w hw =>
        rw [Bool.and_eq_true, Bool.not_eq_true', List.isEmpty_eq_false_iff, beq_iff_eq] at h
        obtain ⟨hv, hsemicolon⟩ := h
        obtain ⟨rest, hrest⟩ := List.head?_eq_some_iff.mp hsemicolon
        refine ⟨ns, b, w.takeWhile isValueChar, rest, ⟨hne, hns⟩, hb,
          ⟨hv, fun c hc => List.mem_takeWhile_imp hc⟩, ?_⟩
        rw [hu, hw, ← hrest, List.takeWhile_append_dropWhile]
        rfl
      · cases h
  · rintro ⟨ns, b, v, rest, ⟨hne, hns⟩, hb, ⟨hvne, hv⟩, rfl⟩
    have hbehind : ∀ c ∈ (b ++ ':' :: (v ++ ';' :: rest)).head?, isNameChar c = false := by
      cases b with
      | nil =>
        rintro c ⟨⟩
        decide
      | cons d b =>
        rintro c ⟨⟩
        exact not_isNameChar_of_blank (hb _ List.mem_cons_self)
    have hname := referenceName?_eq_some_iff.mpr ⟨ns, hne, hns, hbehind, rfl, rfl⟩
    have hcolon : Text.stripLeft (b ++ ':' :: (v ++ ';' :: rest)) = ':' :: (v ++ ';' :: rest) := by
      refine Text.stripLeft_append_of_blank hb ?_
      rintro c ⟨⟩
      decide
    have hvalue : (v ++ ';' :: rest).takeWhile isValueChar = v := by
      rw [List.takeWhile_append_of_pos hv, List.takeWhile_cons_of_neg (by decide), List.append_nil]
    have hend : (v ++ ';' :: rest).dropWhile isValueChar = ';' :: rest := by
      rw [List.dropWhile_append_of_pos hv, List.dropWhile_cons_of_neg (by decide)]
    have hread : referenceName? isNameChar ('-' :: '-' :: (ns ++ (b ++ ':' :: (v ++ ';' :: rest))))
        = some ('-' :: '-' :: ns, b ++ ':' :: (v ++ ';' :: rest)) := hname
    rw [definitionAt, hread]
    simp only [hcolon, hvalue, hend]
    simp [hvne]

/-- A definition is found if one stands at some place of the text. -/
lemma definitionFrom_iff : definitionFrom t ↔ ∃ x y, t = x ++ y ∧ definitionAt y := by
  induction t with
  | nil =>
    constructor
    · intro h
      cases h
    · rintro ⟨x, y, h, hy⟩
      rw [(List.append_eq_nil_iff.mp h.symm).2] at hy
      cases hy
  | cons c t ih =>
    rw [definitionFrom, Bool.or_eq_true, ih]
    constructor
    · rintro (h | ⟨x, y, rfl, hy⟩)
      · exact ⟨[], c :: t, rfl, h⟩
      · exact ⟨c :: x, y, rfl, hy⟩
    · rintro ⟨x, y, h, hy⟩
      cases x with
      | nil =>
        rw [List.nil_append] at h
        rw [← h] at hy
        exact Or.inl hy
      | cons d x => exact Or.inr ⟨x, y, (List.cons.inj h).2, hy⟩

/-- What the cheap look asks for. -/
theorem hasDefinition_iff :
    hasDefinition t ↔ ∃ x ns b v rest, (ns ≠ [] ∧ ∀ c ∈ ns, isNameChar c) ∧ (∀ c ∈ b, isBlank c) ∧
      (v ≠ [] ∧ ∀ c ∈ v, isValueChar c) ∧
      removeComments t = x ++ '-' :: '-' :: (ns ++ (b ++ ':' :: (v ++ ';' :: rest))) := by
  rw [hasDefinition, definitionFrom_iff]
  constructor
  · rintro ⟨x, y, ht, hy⟩
    obtain ⟨ns, b, v, rest, hns, hb, hv, rfl⟩ := definitionAt_iff.mp hy
    exact ⟨x, ns, b, v, rest, hns, hb, hv, ht⟩
  · rintro ⟨x, ns, b, v, rest, hns, hb, hv, ht⟩
    exact ⟨x, _, ht, definitionAt_iff.mpr ⟨ns, b, v, rest, hns, hb, hv, rfl⟩⟩

/-! ### What is declared -/

/-- A name that stands before a colon in a block. -/
structure IsPropertyName (name : Text) : Prop where
  /-- There is no white space at its ends. -/
  trimmed : Text.IsTrimmed name
  /-- It is not empty. -/
  ne_nil : name ≠ []
  /-- It does not have the colon behind it, and no mark that ends a declaration or a block. -/
  plain : ∀ c ∈ name, c ≠ ':' ∧ c ≠ ';' ∧ c ≠ '\x7b' ∧ c ≠ '\x7d'

/-- A declaration is a name, a colon and its value behind it. -/
lemma exists_of_declaration? (h : declaration? part = some (name, value)) :
    ∃ a b v, part = a ++ (name ++ (b ++ ':' :: v)) ∧ (∀ c ∈ b, isBlank c) ∧ v ≠ [] ∧ name ≠ [] ∧
      Text.IsTrimmed name ∧ ':' ∉ name ∧ value = Text.collapse v := by
  rw [declaration?] at h
  split at h
  · cases h
  · next before behind hcut =>
    dsimp only at h
    split at h
    · cases h
    · next hsome =>
      cases h
      rw [Bool.or_eq_true, not_or, List.isEmpty_iff, List.isEmpty_iff] at hsome
      obtain ⟨hname, hvalue⟩ := hsome
      obtain ⟨hstrip, hcolon⟩ := Text.cutFirst_eq_iff.mp hcut
      obtain ⟨a, a', -, ha', hpart, -⟩ := Text.exists_strip part
      obtain ⟨b', b, -, hb, hbefore, htrimmed⟩ := Text.exists_strip before
      have hbehind : behind ≠ [] := by
        rintro rfl
        exact hvalue (Text.collapse_of_blank (List.forall_mem_nil _))
      refine ⟨a ++ b', b, behind ++ a', ?_, hb, List.append_ne_nil_of_left_ne_nil hbehind a', hname,
        htrimmed, fun hmem => hcolon ?_, (Text.collapse_append_blank ha' behind).symm⟩
      · rw [hpart, hstrip]
        nth_rewrite 1 [hbefore]
        simp only [List.append_assoc, List.cons_append]
      · rw [hbefore]
        exact List.mem_append_right _ (List.mem_append_left _ hmem)

/-- The declarations of a block that end with a semicolon, or the one that ends with the block. -/
def partsOf (ended : Bool) (block : Text) : List Text :=
  if ended then (block.splitOn ';').dropLast else (block.splitOn ';').getLast?.toList

/-- Each part of a block ends with a semicolon or with the block. -/
lemma mem_splitOn_iff : part ∈ block.splitOn ';' ↔ ∃ ended, part ∈ partsOf ended block := by
  have hne := List.splitOn_ne_nil ';' block
  have hlast := List.dropLast_append_getLast hne
  rw [Bool.exists_bool]
  simp only [partsOf, if_true, Bool.false_eq_true, if_false, List.getLast?_eq_some_getLast hne,
    Option.toList_some, List.mem_singleton]
  nth_rewrite 1 [← hlast]
  rw [List.mem_append, List.mem_singleton, or_comm]

/-- A block with a single part ends with it, or with a semicolon behind it. -/
lemma mem_partsOf_single (ended : Bool) (h : ';' ∉ part) :
    part ∈ partsOf ended (part ++ if ended then [';'] else []) := by
  have hsingle := List.splitOn_eq_singleton h
  cases ended with
  | true =>
    have hsplit : (part ++ [';']).splitOn ';' = [part, []] := by
      rw [List.splitOn_append_cons_self, hsingle, List.splitOn_nil]
      rfl
    simp [partsOf, hsplit]
  | false => simp [partsOf, hsingle]

/-- The text declares the name in a block under an accepted selector, with a semicolon at the end of
the declaration, or at the end of the block. -/
def Declares (a : Acceptance) (ended : Bool) (t name : Text) : Prop :=
  ∃ before raw block behind, HasBlock before raw block behind (removeComments t) ∧
    a.selector (Text.collapse raw) ∧
    ∃ part ∈ partsOf ended block, ∃ value, declaration? part = some (name, value)

/-- A declared name is one that stands before a colon in a block. -/
lemma Declares.isPropertyName (h : Declares a ended t name) : IsPropertyName name := by
  obtain ⟨before, raw, block, behind, hplace, -, part, hpart, value, hvalue⟩ := h
  obtain ⟨x, b, v, rfl, -, -, hne, htrimmed, hcolon, -⟩ := exists_of_declaration? hvalue
  have hmem := mem_splitOn_iff.mpr ⟨ended, hpart⟩
  have hsub := (Text.infix_of_mem_splitOn hmem).subset
  have hname : ∀ c ∈ name, c ∈ x ++ (name ++ (b ++ ':' :: v)) :=
    fun c hc => List.mem_append_right _ (List.mem_append_left _ hc)
  refine ⟨htrimmed, hne, fun c hc => ⟨?_, ?_, ?_, ?_⟩⟩
  · rintro rfl
    exact hcolon hc
  · rintro rfl
    exact Text.not_mem_of_mem_splitOn hmem (hname _ hc)
  · rintro rfl
    exact hplace.block.1 (hsub (hname _ hc))
  · rintro rfl
    exact hplace.block.2 (hsub (hname _ hc))

/-- What a block declares is what one of its parts declares. -/
lemma mem_keys_blockDeclarations_iff :
    name ∈ (blockDeclarations block).keys
      ↔ ∃ ended, ∃ part ∈ partsOf ended block, ∃ value, declaration? part = some (name, value) := by
  rw [blockDeclarations, OrderedMap.mem_keys_ofList, List.mem_map]
  constructor
  · rintro ⟨d, hd, rfl⟩
    obtain ⟨part, hpart, hdeclares⟩ := List.mem_filterMap.mp hd
    obtain ⟨ended, hended⟩ := mem_splitOn_iff.mp hpart
    exact ⟨ended, part, hended, d.2, hdeclares⟩
  · rintro ⟨ended, part, hpart, value, hdeclares⟩
    exact ⟨(name, value),
      List.mem_filterMap.mpr ⟨part, mem_splitOn_iff.mpr ⟨ended, hpart⟩, hdeclares⟩, rfl⟩

/-- The custom properties of a rule are those of its declarations whose names have two dashes. -/
lemma Rule.mem_customProperties_iff {r : Rule} :
    name ∈ r.customProperties.map Prod.fst
      ↔ isCustomProperty name ∧ name ∈ r.declarations.keys := by
  rw [customProperties, OrderedMap.keys, List.mem_map, List.mem_map]
  constructor
  · rintro ⟨d, hd, rfl⟩
    obtain ⟨hd, hcustom⟩ := List.mem_filter.mp hd
    exact ⟨hcustom, d, hd, rfl⟩
  · rintro ⟨hcustom, d, hd, rfl⟩
    exact ⟨d, List.mem_filter.mpr ⟨hd, hcustom⟩, rfl⟩

/-- The variables of a text are the custom properties that it declares. -/
theorem mem_keys_variablesOf_iff :
    name ∈ (variablesOf a t).keys ↔ isCustomProperty name ∧ ∃ ended, Declares a ended t name := by
  rw [variablesOf, OrderedMap.mem_keys_ofList, List.map_flatMap, List.mem_flatMap]
  constructor
  · rintro ⟨r, hr, hname⟩
    obtain ⟨hr, haccepted⟩ := List.mem_filter.mp hr
    obtain ⟨hcustom, hkey⟩ := Rule.mem_customProperties_iff.mp hname
    obtain ⟨before, raw, block, behind, hplace, hcontent⟩ := exists_mem_rules_iff.mp ⟨r, hr, rfl⟩
    obtain ⟨-, -, hsays⟩ := blockContent?_eq_some_iff.mp hcontent
    obtain ⟨hselector, hdeclarations⟩ := Prod.mk.inj hsays
    rw [← hdeclarations] at hkey
    obtain ⟨ended, hparts⟩ := mem_keys_blockDeclarations_iff.mp hkey
    exact ⟨hcustom, ended, before, raw, block, behind, hplace, hselector ▸ haccepted, hparts⟩
  · rintro ⟨hcustom, ended, before, raw, block, behind, hplace, haccepted, hparts⟩
    have hkey := mem_keys_blockDeclarations_iff.mpr ⟨ended, hparts⟩
    have hraw : Text.isBlankText raw = false := by
      rw [Bool.eq_false_iff]
      intro hblank
      rw [Text.collapse_of_blank (List.all_eq_true.mp hblank), selector_nil] at haccepted
      cases haccepted
    have hsome : (blockDeclarations block).isEmpty = false := by
      obtain ⟨d, hd, -⟩ := List.mem_map.mp hkey
      rw [OrderedMap.isEmpty, List.isEmpty_eq_false_iff]
      exact List.ne_nil_of_mem hd
    obtain ⟨r, hr, hcontent⟩ := exists_mem_rules_iff.mpr ⟨before, raw, block, behind, hplace,
      blockContent?_eq_some_iff.mpr ⟨hraw, hsome, rfl⟩⟩
    obtain ⟨hselector, hdeclarations⟩ := Prod.mk.inj hcontent
    refine ⟨r, List.mem_filter.mpr ⟨hr, ?_⟩, Rule.mem_customProperties_iff.mpr ⟨hcustom, ?_⟩⟩
    · rwa [hselector]
    · rwa [hdeclarations]

/-! ### What the look finds of it -/

/-- The name ends as a plain name does, with two dashes and name characters. -/
def EndsPlainly (name : Text) : Prop :=
  ∃ front ns, name = front ++ '-' :: '-' :: ns ∧ ns ≠ [] ∧ ∀ c ∈ ns, isNameChar c

/-- A declaration that a semicolon ends is found, if its name ends plainly. -/
lemma hasDefinition_of_declares (h : Declares a true t name) (hname : EndsPlainly name) :
    hasDefinition t := by
  obtain ⟨before, raw, block, behind, hplace, -, part, hpart, value, hvalue⟩ := h
  obtain ⟨x, y, hblock, hcut⟩ := Text.exists_of_mem_dropLast_splitOn hpart
  obtain ⟨u, b, v, rfl, hb, hv, -⟩ := exists_of_declaration? hvalue
  obtain ⟨front, ns, rfl, hns⟩ := hname
  have hvalueChar : ∀ c ∈ v, isValueChar c := by
    intro c hc
    have hpartChar : c ∈ u ++ (front ++ '-' :: '-' :: ns ++ (b ++ ':' :: v)) := by simp [hc]
    have hblockChar : c ∈ block := by
      rw [hblock]
      exact List.mem_append_left _ (List.mem_append_right x hpartChar)
    have hsemicolon : c ≠ ';' := fun heq => hcut.not_mem (heq ▸ hpartChar)
    have hopen : c ≠ '\x7b' := fun heq => hplace.block.1 (heq ▸ hblockChar)
    have hclose : c ≠ '\x7d' := fun heq => hplace.block.2 (heq ▸ hblockChar)
    simp [isValueChar, hsemicolon, hopen, hclose]
  refine hasDefinition_iff.mpr ⟨before ++ (raw ++ '\x7b' :: (x ++ (u ++ front))), ns, b, v,
    y ++ '\x7d' :: behind, hns, hb, ⟨hv, hvalueChar⟩, ?_⟩
  rw [hplace.text, hblock]
  simp only [List.append_assoc, List.cons_append]

/-- A text in which each slash stands before an empty comment and a slash. -/
def shield (t : Text) : Text :=
  t.flatMap fun c => if c = '/' then "//**/".toList else [c]

/-- Every text is left when the comments of another one are removed. -/
lemma removeComments_shield (t : Text) : removeComments (shield t) = t := by
  induction t with
  | nil => exact removeComments_nil
  | cons c t ih =>
    by_cases hc : c = '/'
    · subst hc
      have hfirst : comment? ('/' :: '/' :: '*' :: '*' :: '/' :: shield t) = none :=
        comment?_of_ne_star (by decide) _
      have hsecond :
          comment? ('/' :: '*' :: '*' :: '/' :: shield t) = some ("/**/".toList, shield t) :=
        rfl
      change removeComments ('/' :: '/' :: '*' :: '*' :: '/' :: shield t) = _
      rw [removeComments_of_code hfirst, removeComments_of_comment hsecond, ih]
    · have hshield : shield (c :: t) = c :: shield t := by
        rw [shield, List.flatMap_cons, if_neg hc]
        rfl
      rw [hshield, removeComments_of_code (comment?_of_ne_slash hc _), ih]

/-- Every property name can be declared. -/
lemma IsPropertyName.declaration? (h : IsPropertyName name) :
    declaration? (name ++ [':', '1']) = some (name, ['1']) := by
  have htrimmed : Text.IsTrimmed (name ++ [':', '1']) := by
    constructor
    · intro d hd
      obtain ⟨c, cs, rfl⟩ := List.exists_cons_of_ne_nil h.ne_nil
      exact h.trimmed.front d hd
    · intro d hd
      rw [List.getLast?_append, List.getLast?_cons_cons, List.getLast?_singleton] at hd
      cases hd
      decide
  have hcut : Text.cutFirst ':' (name ++ [':', '1']) = (name, some ['1']) :=
    Text.cutFirst_append (fun hmem => (h.plain _ hmem).1 rfl) ['1']
  have hcollapse : Text.collapse ['1'] = ['1'] := by decide
  rw [Style.declaration?, htrimmed.strip_eq, hcut]
  simp [h.trimmed.strip_eq, hcollapse, h.ne_nil]

/-- A rule that declares a name and nothing else, with a semicolon or without. -/
def rootRule (ended : Bool) (name : Text) : Text :=
  ':' :: ("root\x7b".toList ++
    (name ++ ':' :: '1' :: ((if ended then [';'] else []) ++ ['\x7d'])))

/-- Shielded, the rule of a name declares it, with or without the semicolon. -/
lemma declares_shield_rootRule (ended : Bool) (hname : IsPropertyName name) :
    Declares .scopes ended (shield (rootRule ended name)) name := by
  let part : Text := name ++ [':', '1']
  let close : Text := if ended then [';'] else []
  have hnot : ∀ c, (c = ';' ∨ c = '\x7b' ∨ c = '\x7d') → c ∉ part := by
    rintro c hc hmem
    rcases List.mem_append.mp hmem with hmem | hmem
    · have hplain := hname.plain c hmem
      tauto
    · rw [List.mem_cons, List.mem_singleton] at hmem
      rcases hc with rfl | rfl | rfl <;> revert hmem <;> decide
  have hclose : '\x7b' ∉ close ∧ '\x7d' ∉ close := by
    cases ended <;> decide
  have hblock : '\x7b' ∉ part ++ close ∧ '\x7d' ∉ part ++ close :=
    ⟨List.not_mem_append (hnot _ (by simp)) hclose.1,
      List.not_mem_append (hnot _ (by simp)) hclose.2⟩
  refine ⟨[], ":root".toList, part ++ close, [], ⟨?_, Or.inl rfl, by decide, hblock⟩, by decide,
    part, mem_partsOf_single ended (hnot ';' (by simp)), ['1'], hname.declaration?⟩
  rw [removeComments_shield, rootRule]
  simp [part, close]

/-- What the look finds in such a rule is the declaration of the name. -/
lemma endsPlainly_of_hasDefinition (hname : IsPropertyName name)
    (h : hasDefinition (shield (rootRule ended name))) : ended = true ∧ EndsPlainly name := by
  obtain ⟨x, ns, b, v, rest, hns, hb, -, hrule⟩ := hasDefinition_iff.mp h
  rw [removeComments_shield, rootRule] at hrule
  have hended : ended = true := by
    by_contra hopen
    have hnot : ';' ∉ ':' :: ("root\x7b".toList ++
        (name ++ ':' :: '1' :: (([] : Text) ++ ['\x7d']))) := by
      refine List.not_mem_cons_of_ne_of_not_mem (by decide) (List.not_mem_append (by decide)
        (List.not_mem_append ?_ (by decide)))
      exact fun hmem => (hname.plain _ hmem).2.1 rfl
    rw [if_neg hopen] at hrule
    rw [hrule] at hnot
    exact hnot (by simp)
  refine ⟨hended, ?_⟩
  have hplaces : (x ++ '-' :: '-' :: (ns ++ b)) ++ ':' :: (v ++ ';' :: rest)
      = (':' :: ("root\x7b".toList ++ name)) ++ ':' :: ['1', ';', '\x7d'] := by
    rw [if_pos hended] at hrule
    simp only [List.append_assoc, List.cons_append, List.nil_append] at hrule ⊢
    exact hrule.symm
  -- Before the colon behind the name there is one at the front, and nothing stands before that one.
  have hbefore : x ++ '-' :: '-' :: (ns ++ b) = ':' :: ("root\x7b".toList ++ name) := by
    refine (Text.eq_or_exists_of_append_cons_eq (by decide) hplaces).resolve_right ?_
    rintro ⟨w, hw⟩
    obtain ⟨d, ds, hd⟩ := List.exists_cons_of_ne_nil
      (List.append_ne_nil_of_right_ne_nil x (List.cons_ne_nil '-' ('-' :: (ns ++ b))))
    rw [hd] at hw
    have hcolon : ':' ∉ "root\x7b".toList ++ name :=
      List.not_mem_append (by decide) fun hmem => (hname.plain _ hmem).1 rfl
    rw [(List.cons.inj hw).2] at hcolon
    exact hcolon (by simp)
  rw [← List.cons_append, ← List.cons_append, ← List.append_assoc, ← List.cons_append] at hbefore
  rw [hname.trimmed.eq_nil_of_append_eq hname.ne_nil hb hbefore, List.append_nil] at hbefore
  rcases List.append_eq_append_iff.mp hbefore with ⟨s, hs, hends⟩ | ⟨s, hs, hends⟩
  · cases s with
    | nil => exact ⟨[], ns, hends.symm, hns⟩
    | cons c s =>
      have hbrace : '\x7b' ∈ c :: s := by
        have hlast := congrArg List.getLast? hs
        rw [List.getLast?_append_of_ne_nil x (List.cons_ne_nil c s)] at hlast
        exact List.mem_of_getLast? hlast.symm
      have hmem : '\x7b' ∈ '-' :: '-' :: ns := hends ▸ List.mem_append_left name hbrace
      simp only [List.mem_cons, Char.reduceEq, false_or] at hmem
      exact absurd (hns.2 _ hmem) (by decide)
  · exact ⟨s, ns, hends, hns⟩

/-- The cheap look can be relied on for the declarations of a name that a semicolon ends, exactly if
the name ends plainly, and never for those that end with their block. -/
theorem hasDefinition_of_declares_iff (hname : IsPropertyName name) :
    (∀ t, Declares .scopes ended t name → hasDefinition t) ↔ ended = true ∧ EndsPlainly name := by
  constructor
  · intro h
    exact endsPlainly_of_hasDefinition hname (h _ (declares_shield_rootRule ended hname))
  · rintro ⟨rfl, hplain⟩ t ht
    exact hasDefinition_of_declares ht hplain

end Style

end DesignTokens
