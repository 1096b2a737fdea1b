import DesignTokens.Proofs.Glob.Walk
import DesignTokens.Proofs.Text.Split
import DesignTokens.Workspace.Discovery

/-!
# Two readings of a pattern

A pattern is read in two ways: component by component, as a walk through a tree does, or as one
wildcard pattern for a whole relative path.  In the second reading a star, a question mark and a set
may stand for a slash as well.  For a plain pattern, which is made of names and wildcards between
slashes with perhaps two stars at the front, whatever the first reading accepts is accepted by the
second one (`PlainPattern.matchesPattern_of_leadsTo`).  The converse holds where no wildcard can
take a slash, or only a star at the front that stands for the directories above as well
(`PlainPattern.leadsTo_of_matchesPattern`).
-/

namespace DesignTokens

variable {parts rest : List Text}

/-! ### Components of a path -/

/-- The text of a relative path with the given components. -/
def slashed (parts : List Text) : Text :=
  ['/'].intercalate parts

/-- A single component is its own text. -/
lemma slashed_singleton (n : Text) : slashed [n] = n :=
  List.intercalate_singleton

/-- Further components follow the first one behind a slash. -/
lemma slashed_cons (n : Text) (h : parts ≠ []) :
    slashed (n :: parts) = n ++ '/' :: slashed parts := by
  rw [slashed, List.intercalate_cons_of_ne_nil h, List.append_assoc]
  rfl

/-- A text without slashes is one component. -/
lemma eq_singleton_of_not_mem (hne : parts ≠ []) (h : '/' ∉ slashed parts) :
    parts = [slashed parts] := by
  match parts with
  | [] => exact absurd rfl hne
  | [n] => rw [slashed_singleton]
  | n :: m :: parts =>
    rw [slashed_cons n (List.cons_ne_nil m parts)] at h
    exact absurd (List.mem_append_right n List.mem_cons_self) h

/-- At a slash, a path is cut between two components. -/
lemma exists_of_slashed_eq {x y : Text} (hslash : ∀ n ∈ parts, '/' ∉ n)
    (h : slashed parts = x ++ '/' :: y) :
    ∃ front behind, parts = front ++ behind ∧ front ≠ [] ∧ behind ≠ [] ∧
      slashed front = x ∧ slashed behind = y := by
  induction parts generalizing x with
  | nil => exact absurd h (by simp [slashed])
  | cons n parts ih =>
    rw [List.forall_mem_cons] at hslash
    by_cases hparts : parts = []
    · subst hparts
      rw [slashed_singleton] at h
      refine absurd ?_ hslash.1
      rw [h]
      exact List.mem_append_right x List.mem_cons_self
    · rw [slashed_cons n hparts] at h
      rcases List.append_eq_append_iff.mp h with ⟨s, rfl, hs⟩ | ⟨s, rfl, hs⟩
      · cases s with
        | nil =>
          refine ⟨[n], parts, rfl, List.cons_ne_nil n [], hparts, ?_, (List.cons.inj hs).2⟩
          rw [slashed_singleton, List.append_nil]
        | cons c s =>
          obtain ⟨rfl, hrest⟩ := List.cons.inj hs
          obtain ⟨front, behind, rfl, hfront, hbehind, rfl, rfl⟩ := ih hslash.2 hrest
          refine ⟨n :: front, behind, rfl, List.cons_ne_nil n front, hbehind, ?_, rfl⟩
          rw [slashed_cons n hfront]
      · cases s with
        | nil =>
          refine ⟨[x], parts, by rw [List.append_nil]; rfl, List.cons_ne_nil x [], hparts, ?_,
            (List.cons.inj hs).2.symm⟩
          rw [slashed_singleton]
        | cons c s =>
          obtain ⟨rfl, -⟩ := List.cons.inj hs
          exact absurd (List.mem_append_right x List.mem_cons_self) hslash.1

/-- Up to the first slash there is one component. -/
lemma exists_of_slashed_eq_cons {x y : Text} (hslash : ∀ n ∈ parts, '/' ∉ n) (hx : '/' ∉ x)
    (h : slashed parts = x ++ '/' :: y) :
    ∃ rest, parts = x :: rest ∧ rest ≠ [] ∧ slashed rest = y := by
  obtain ⟨front, rest, rfl, hfront, hrest, rfl, hy⟩ := exists_of_slashed_eq hslash h
  refine ⟨rest, ?_, hrest, hy⟩
  nth_rewrite 1 [eq_singleton_of_not_mem hfront hx]
  rfl

/-- Anywhere, a path is cut in one of its components, behind some others. -/
lemma exists_of_slashed_eq_append {x y : Text} (hslash : ∀ n ∈ parts, '/' ∉ n)
    (hne : parts ≠ []) (h : slashed parts = x ++ y) :
    ∃ front behind z, parts = front ++ behind ∧ behind ≠ [] ∧ '/' ∉ z ∧
      slashed behind = z ++ y := by
  by_cases hx : '/' ∈ x
  · obtain ⟨x', z, rfl, hz⟩ := Text.exists_last_of_mem hx
    rw [List.append_assoc, List.cons_append] at h
    obtain ⟨front, behind, rfl, -, hbehind, -, hcut⟩ := exists_of_slashed_eq hslash h
    exact ⟨front, behind, z, rfl, hbehind, hz, hcut⟩
  · exact ⟨[], parts, x, rfl, hne, hx, h⟩

/-- Two lists of components are separated by a slash. -/
lemma slashed_append (hfront : parts ≠ []) (hrest : rest ≠ []) :
    slashed (parts ++ rest) = slashed parts ++ '/' :: slashed rest :=
  Text.intercalate_append hfront hrest

/-- A path of names does not begin with a slash. -/
lemma exists_slashed_eq_cons (hne : parts ≠ []) (hname : ∀ n ∈ parts, IsName n) :
    ∃ c t, slashed parts = c :: t ∧ c ≠ '/' := by
  obtain ⟨n, rest, rfl⟩ := List.exists_cons_of_ne_nil hne
  rw [List.forall_mem_cons] at hname
  obtain ⟨c, n', rfl⟩ := List.exists_cons_of_ne_nil hname.1.1
  have hc : c ≠ '/' := fun h => hname.1.2.2.2 (h ▸ List.mem_cons_self)
  by_cases hrest : rest = []
  · exact ⟨c, n', by rw [hrest, slashed_singleton], hc⟩
  · exact ⟨c, n' ++ '/' :: slashed rest, by rw [slashed_cons _ hrest]; rfl, hc⟩

/-- A path of names does not end in a slash. -/
lemma getLast_slashed_ne (hne : parts ≠ []) (hname : ∀ n ∈ parts, IsName n) :
    (slashed parts).getLast? ≠ some '/' := by
  obtain ⟨front, n, rfl⟩ := (List.eq_nil_or_concat' parts).resolve_left hne
  have hn := hname n (List.mem_append_right front List.mem_cons_self)
  have hlast : (slashed (front ++ [n])).getLast? = n.getLast? := by
    by_cases hfront : front = []
    · rw [hfront, List.nil_append, slashed_singleton]
    · rw [slashed_append hfront (List.cons_ne_nil n []), slashed_singleton, List.append_cons,
        List.getLast?_append_of_ne_nil _ hn.1]
  rw [hlast]
  exact fun h => hn.2.2.2 (List.mem_of_getLast? h)

namespace Glob

variable {is js : List Item} {t u v part : Text} {c : Char}

/-! ### What items accept -/

/-- The items of a whole pattern. -/
def itemsOf (t : Text) : List Item :=
  items t.length t

/-- A wildcard pattern accepts what its items accept. -/
lemma wildcard_eq (pattern t : Text) : wildcard pattern t = accepts (itemsOf pattern) t :=
  matchItems_eq_accepts _ _

/-- Some end of a text is as wanted exactly if the text ends so. -/
lemma anySuffix_iff {p : Text → Bool} : anySuffix p t ↔ ∃ x y, t = x ++ y ∧ p y := by
  induction t with
  | nil =>
    rw [anySuffix]
    constructor
    · intro h
      exact ⟨[], [], rfl, h⟩
    · rintro ⟨x, y, hxy, hy⟩
      rwa [(List.append_eq_nil_iff.mp hxy.symm).2] at hy
  | cons c t ih =>
    rw [anySuffix, Bool.or_eq_true, ih]
    constructor
    · rintro (h | ⟨x, y, rfl, hy⟩)
      · exact ⟨[], c :: t, rfl, h⟩
      · exact ⟨c :: x, y, rfl, hy⟩
    · rintro ⟨x, y, hxy, hy⟩
      cases x with
      | nil =>
        rw [List.nil_append] at hxy
        rw [← hxy] at hy
        exact Or.inl hy
      | cons d x => exact Or.inr ⟨x, y, (List.cons.inj hxy).2, hy⟩

/-- An empty list of items accepts the empty text only. -/
lemma accepts_nil_iff : accepts [] t ↔ t = [] :=
  List.isEmpty_iff

/-- A run accepts any text in front of what the further items accept. -/
lemma accepts_run_iff : accepts (.run :: is) t ↔ ∃ x y, t = x ++ y ∧ accepts is y :=
  anySuffix_iff

/-- A set accepts one character of it in front of what the further items accept. -/
lemma accepts_one_iff {set : CharSet} :
    accepts (.one set :: is) t ↔ ∃ c u, t = c :: u ∧ set.has c ∧ accepts is u := by
  cases t with
  | nil =>
    rw [accepts]
    refine iff_of_false Bool.false_ne_true ?_
    rintro ⟨c, u, h, -⟩
    exact List.cons_ne_nil c u h.symm
  | cons c t =>
    rw [accepts, Bool.and_eq_true]
    constructor
    · rintro ⟨hc, ht⟩
      exact ⟨c, t, rfl, hc, ht⟩
    · rintro ⟨d, u, h, hd, hu⟩
      cases h
      exact ⟨hd, hu⟩

/-- Items one behind the other accept texts one behind the other. -/
lemma accepts_append (hu : accepts is u) (hv : accepts js v) : accepts (is ++ js) (u ++ v) := by
  induction is generalizing u with
  | nil =>
    rw [accepts_nil_iff.mp hu]
    exact hv
  | cons i is ih =>
    cases i with
    | run =>
      obtain ⟨x, y, rfl, hy⟩ := accepts_run_iff.mp hu
      exact accepts_run_iff.mpr ⟨x, y ++ v, List.append_assoc x y v, ih hy⟩
    | one set =>
      obtain ⟨c, y, rfl, hc, hy⟩ := accepts_one_iff.mp hu
      exact accepts_one_iff.mpr ⟨c, y ++ v, rfl, hc, ih hy⟩

/-- A single character is the only one of its set. -/
lemma has_only_iff {d : Char} : (CharSet.only c).has d ↔ d = c := by
  simp only [CharSet.has, CharSet.only, List.any_cons, List.any_nil, Bool.or_false, bne_iff_ne,
    ne_eq, Bool.not_eq_false, Bool.and_eq_true, decide_eq_true_eq]
  constructor
  · rintro ⟨hle, hge⟩
    exact Char.le_antisymm hge hle
  · rintro rfl
    exact ⟨Char.le_refl d, Char.le_refl d⟩

/-- A text without wildcards matches itself only. -/
lemma accepts_itemsOf_of_not_wildcard (h : isWildcard part = false) :
    accepts (itemsOf part) t ↔ t = part := by
  induction part generalizing t with
  | nil => exact accepts_nil_iff
  | cons c part ih =>
    rw [isWildcard, List.any_cons, Bool.or_eq_false_iff] at h
    have hitems : itemsOf (c :: part) = .one (.only c) :: itemsOf part := by
      obtain ⟨hc, -⟩ := h
      simp only [Bool.or_eq_false_iff, beq_eq_false_iff_ne] at hc
      rw [itemsOf, List.length_cons, items]
      · rfl
      · exact hc.1.1
      · exact hc.1.2
      · exact hc.2
    rw [hitems, accepts_one_iff]
    constructor
    · rintro ⟨d, u, rfl, hd, hu⟩
      rw [has_only_iff.mp hd, (ih h.2).mp hu]
    · rintro rfl
      exact ⟨c, part, rfl, has_only_iff.mpr rfl, (ih h.2).mpr rfl⟩

/-! ### Plain patterns -/

/-- A plain pattern has names and wildcards between slashes, and perhaps two stars at the front. -/
structure PlainPattern where
  /-- Do two stars stand at the front? -/
  deep : Bool
  /-- The components behind them. -/
  comps : List Text
  /-- There is a component. -/
  ne_nil : comps ≠ []
  /-- A component is neither empty nor made of dots only, and has no slash. -/
  isName : ∀ c ∈ comps, IsName c
  /-- No two stars stand side by side. -/
  single : ∀ c ∈ comps, Text.occurs "**".toList c = false
  /-- No set reaches over a slash. -/
  apart : itemsOf (slashed comps) = [.one (.only '/')].intercalate (comps.map itemsOf)

namespace PlainPattern

variable {q : PlainPattern}

/-- The text of a plain pattern. -/
def text (q : PlainPattern) : Text :=
  if q.deep then "**/".toList ++ slashed q.comps else slashed q.comps

/-- The components, the two stars included. -/
def allComps (q : PlainPattern) : List Text :=
  if q.deep then "**".toList :: q.comps else q.comps

/-- A plain pattern is written as its components with slashes between them. -/
lemma text_eq (q : PlainPattern) : q.text = slashed q.allComps := by
  rw [text, allComps]
  split
  · rw [slashed_cons _ q.ne_nil]
    rfl
  · rfl

/-- A plain pattern has a component. -/
lemma allComps_ne_nil (q : PlainPattern) : q.allComps ≠ [] := by
  rw [allComps]
  split
  · exact List.cons_ne_nil _ _
  · exact q.ne_nil

/-- Every component of a plain pattern is a name. -/
lemma isName_of_mem_allComps (q : PlainPattern) : ∀ c ∈ q.allComps, IsName c := by
  rw [allComps]
  split
  · exact List.forall_mem_cons.mpr ⟨by decide, q.isName⟩
  · exact q.isName

/-- The step of a component that is not two stars. -/
def stepOf (c : Text) : Step :=
  if isWildcard c then .wild (itemsOf c) else .name c

/-- The steps of a plain pattern. -/
def steps (q : PlainPattern) : List Step :=
  if q.deep then .anyDepth :: q.comps.map stepOf else q.comps.map stepOf

/-- A component without two stars in a row is read as its step. -/
lemma ofPart_eq (hsingle : Text.occurs "**".toList part = false) :
    Step.ofPart part = .ok (stepOf part) := by
  have hne : part ≠ "**".toList := by
    rintro rfl
    revert hsingle
    decide
  rw [Step.ofPart, if_neg hne, if_neg (by rw [hsingle]; exact Bool.false_ne_true), stepOf]
  split
  · rfl
  · rfl

/-- Components without two stars in a row are read as their steps. -/
lemma mapM_ofPart_eq {cs : List Text} (h : ∀ c ∈ cs, Text.occurs "**".toList c = false) :
    cs.mapM Step.ofPart = .ok (cs.map stepOf) := by
  induction cs with
  | nil => rfl
  | cons c cs ih =>
    rw [List.forall_mem_cons] at h
    rw [List.mapM_cons, ofPart_eq h.1, ih h.2]
    rfl

/-- A plain pattern is read component by component. -/
lemma ofText_text (q : PlainPattern) : Pattern.ofText q.text = .ok ⟨q.steps, false⟩ := by
  have hslash : ∀ c ∈ q.allComps, '/' ∉ c := fun c hc => (q.isName_of_mem_allComps c hc).2.2.2
  have hparts : Path.partsOf q.text = q.allComps := by
    rw [Path.partsOf, text_eq, slashed, List.splitOn_intercalate _ hslash q.allComps_ne_nil]
    refine List.filter_eq_self.mpr fun c hc => ?_
    have hname := q.isName_of_mem_allComps c hc
    simp [hname.1, hname.2.1]
  have hsteps : q.allComps.mapM Step.ofPart = .ok q.steps := by
    rw [allComps, steps]
    split
    · rw [List.mapM_cons, mapM_ofPart_eq q.single]
      rfl
    · exact mapM_ofPart_eq q.single
  obtain ⟨c, t, hcons, hc⟩ := exists_slashed_eq_cons q.allComps_ne_nil q.isName_of_mem_allComps
  have hroot : Root.ofText q.text = .none := by
    rw [text_eq, hcons]
    unfold Root.ofText
    split
    · next h => exact absurd (List.cons.inj h).1 hc
    · next h => exact absurd (List.cons.inj h).1 hc
    · next h => exact absurd (List.cons.inj h).1 hc
    · rfl
  have hend : (q.text.getLast? == some '/') = false := by
    rw [beq_eq_false_iff_ne, text_eq]
    exact getLast_slashed_ne q.allComps_ne_nil q.isName_of_mem_allComps
  have hsome : q.text.isEmpty = false := by
    rw [text_eq, hcons]
    rfl
  rw [Pattern.ofText, hend, hsome, hroot, hparts]
  simp only [Bool.false_eq_true, if_false, ne_eq, not_true_eq_false]
  split
  · next hnone => exact absurd hnone q.allComps_ne_nil
  · rw [hsteps]
    rfl

/-- Each component accepts the name in its place. -/
abbrev AcceptEach (cs ns : List Text) : Prop :=
  List.Forall₂ (fun c n => accepts (itemsOf c) n) cs ns

/-- The steps of components lead along the names that the components accept, one by one. -/
lemma leads_map_stepOf_iff {cs : List Text} :
    Leads (cs.map stepOf) parts ↔ AcceptEach cs parts := by
  induction cs generalizing parts with
  | nil => rw [List.map_nil, leads_nil_iff, AcceptEach, List.forall₂_nil_left_iff]
  | cons c cs ih =>
    rw [List.map_cons, AcceptEach, List.forall₂_cons_left_iff, stepOf]
    split
    · rw [leads_wild_iff]
      constructor
      · rintro ⟨n, rest, rfl, hn, h⟩
        exact ⟨n, rest, matchItems_eq_accepts _ _ ▸ hn, ih.mp h, rfl⟩
      · rintro ⟨n, rest, hn, h, rfl⟩
        exact ⟨n, rest, rfl, matchItems_eq_accepts _ _ ▸ hn, ih.mpr h⟩
    · next hplain =>
      rw [Bool.not_eq_true] at hplain
      rw [leads_name_iff]
      constructor
      · rintro ⟨rest, rfl, h⟩
        exact ⟨c, rest, (accepts_itemsOf_of_not_wildcard hplain).mpr rfl, ih.mp h, rfl⟩
      · rintro ⟨n, rest, hn, h, rfl⟩
        rw [(accepts_itemsOf_of_not_wildcard hplain).mp hn]
        exact ⟨rest, rfl, ih.mpr h⟩

/-- The first reading: behind some directories, each component accepts its name. -/
lemma leadsTo_iff (q : PlainPattern) :
    LeadsTo q.text parts ↔ ∃ dirs rest, parts = dirs ++ rest ∧ (q.deep = false → dirs = []) ∧
      AcceptEach q.comps rest := by
  have hreads : LeadsTo q.text parts ↔ Leads q.steps parts := by
    rw [LeadsTo, ofText_text]
    constructor
    · rintro ⟨_, hq, -, h⟩
      cases hq
      exact h
    · exact fun h => ⟨_, rfl, rfl, h⟩
  rw [hreads, steps]
  split
  · next hdeep =>
    rw [leads_anyDepth_iff]
    constructor
    · rintro ⟨dirs, rest, rfl, -, h⟩
      refine ⟨dirs, rest, rfl, fun hflat => ?_, leads_map_stepOf_iff.mp h⟩
      rw [hdeep] at hflat
      cases hflat
    · rintro ⟨dirs, rest, rfl, -, h⟩
      refine ⟨dirs, rest, rfl, ?_, leads_map_stepOf_iff.mpr h⟩
      rintro rfl
      exact q.ne_nil (List.forall₂_nil_right_iff.mp h)
  · next hflat =>
    rw [leads_map_stepOf_iff]
    constructor
    · exact fun h => ⟨[], parts, rfl, fun _ => rfl, h⟩
    · rintro ⟨dirs, rest, rfl, hdirs, h⟩
      rw [hdirs (Bool.not_eq_true _ ▸ hflat)]
      exact h

/-- Two stars and a slash at the front are two runs and the slash. -/
lemma itemsOf_deep (t : Text) :
    itemsOf ("**/".toList ++ t) = .run :: .run :: .one (.only '/') :: itemsOf t := by
  have hlead : "**/".toList = ['*', '*', '/'] := by decide
  rw [hlead]
  rfl

/-- Without two stars at the front, a component comes first. -/
lemma after?_of_flat (q : PlainPattern) : Text.after? "**/".toList (slashed q.comps) = none := by
  rw [Option.eq_none_iff_forall_ne_some]
  intro rest hrest
  have hlead : "**/".toList = "**".toList ++ ['/'] := by decide
  rw [Text.after?_eq_some_iff, hlead, List.append_assoc] at hrest
  obtain ⟨cs, hcs, -, -⟩ := exists_of_slashed_eq_cons (fun c hc => (q.isName c hc).2.2.2)
    (by decide) hrest
  have hsingle := q.single "**".toList (hcs ▸ List.mem_cons_self)
  revert hsingle
  decide

/-- The second reading: behind some directories, the items accept the whole rest of the path. -/
lemma matchesPattern_iff (q : PlainPattern) (hne : parts ≠ []) (hslash : ∀ n ∈ parts, '/' ∉ n) :
    Discovery.matchesPattern (slashed parts) q.text ↔
      ∃ dirs rest, parts = dirs ++ rest ∧ rest ≠ [] ∧ (q.deep = false → dirs = []) ∧
        accepts (itemsOf (slashed q.comps)) (slashed rest) := by
  rw [Discovery.matchesPattern, wildcard_eq, Bool.or_eq_true, text]
  split
  · next hdeep =>
    have hafter : Text.after? "**/".toList ("**/".toList ++ slashed q.comps)
        = some (slashed q.comps) :=
      Text.after?_eq_some_iff.mpr rfl
    rw [hafter, itemsOf_deep]
    dsimp only
    rw [wildcard_eq, accepts_run_iff]
    constructor
    · -- Either the stars take directories up to a slash, or the pattern is tried without them.
      rintro (⟨x, y, hxy, hy⟩ | h)
      · obtain ⟨x', y', rfl, hy'⟩ := accepts_run_iff.mp hy
        obtain ⟨c, u, rfl, hc, hu⟩ := accepts_one_iff.mp hy'
        rw [has_only_iff.mp hc, ← List.append_assoc] at hxy
        obtain ⟨dirs, rest, rfl, -, hrest, -, rfl⟩ := exists_of_slashed_eq hslash hxy
        refine ⟨dirs, rest, rfl, hrest, fun hflat => ?_, hu⟩
        rw [hdeep] at hflat
        cases hflat
      · exact ⟨[], parts, rfl, hne, fun _ => rfl, h⟩
    · rintro ⟨dirs, rest, rfl, hrest, -, h⟩
      by_cases hdirs : dirs = []
      · rw [hdirs]
        exact Or.inr h
      · refine Or.inl ⟨slashed dirs, '/' :: slashed rest, slashed_append hdirs hrest, ?_⟩
        exact accepts_run_iff.mpr ⟨[], _, rfl, accepts_one_iff.mpr
          ⟨'/', _, rfl, has_only_iff.mpr rfl, h⟩⟩
  · next hflat =>
    rw [after?_of_flat]
    constructor
    · rintro (h | h)
      · exact ⟨[], parts, rfl, hne, fun _ => rfl, h⟩
      · cases h
    · rintro ⟨dirs, rest, rfl, -, hdirs, h⟩
      rw [hdirs (Bool.not_eq_true _ ▸ hflat)]
      exact Or.inl h

/-! ### From one reading to the other -/

/-- What components accept one by one is accepted by their items with slashes in between. -/
lemma accepts_of_acceptEach {cs : List Text} (h : AcceptEach cs rest) (hne : cs ≠ []) :
    accepts ([.one (.only '/')].intercalate (cs.map itemsOf)) (slashed rest) := by
  induction h with
  | nil => exact absurd rfl hne
  | @cons c n cs rest hc hcs ih =>
    by_cases hrest : cs = []
    · subst hrest
      cases hcs
      rwa [List.map_singleton, List.intercalate_singleton, slashed_singleton]
    · have hns : rest ≠ [] := by
        rintro rfl
        exact hrest (List.forall₂_nil_right_iff.mp hcs)
      rw [List.map_cons, List.intercalate_cons_of_ne_nil (by simpa using hrest), slashed_cons n hns,
        List.append_assoc]
      exact accepts_append hc (accepts_one_iff.mpr ⟨'/', _, rfl, has_only_iff.mpr rfl, ih hrest⟩)

/-- Where a plain pattern leads component by component, it matches as a whole. -/
theorem matchesPattern_of_leadsTo (q : PlainPattern) (hslash : ∀ n ∈ parts, '/' ∉ n)
    (h : LeadsTo q.text parts) : Discovery.matchesPattern (slashed parts) q.text := by
  obtain ⟨dirs, rest, rfl, hdirs, hrest⟩ := q.leadsTo_iff.mp h
  have hne : rest ≠ [] := by
    rintro rfl
    exact q.ne_nil (List.forall₂_nil_right_iff.mp hrest)
  refine (q.matchesPattern_iff (List.append_ne_nil_of_right_ne_nil dirs hne) hslash).mpr
    ⟨dirs, rest, rfl, hne, hdirs, ?_⟩
  rw [q.apart]
  exact accepts_of_acceptEach hrest q.ne_nil

/-- Each item stands for one character, and none for a slash. -/
def staysInside (is : List Item) : Bool :=
  is.all fun
    | .run => false
    | .one set => !set.has '/'

/-- No wildcard can take a slash, but for a star at the front that stands for directories as
well. -/
def isConfined (q : PlainPattern) : Bool :=
  match q.comps.map itemsOf with
  | [] => true
  | is :: iss =>
      iss.all staysInside &&
        (staysInside is || q.deep && is.head? == some .run && staysInside is.tail)

/-- Items stay inside a component if the first one does and the further ones do. -/
lemma staysInside_cons_iff {i : Item} :
    staysInside (i :: is) ↔ (∃ set, i = .one set ∧ set.has '/' = false) ∧ staysInside is := by
  rw [staysInside, List.all_cons, Bool.and_eq_true]
  refine and_congr_left fun _ => ?_
  cases i with
  | run => exact iff_of_false Bool.false_ne_true fun ⟨_, h, _⟩ => by cases h
  | one set =>
    dsimp only
    rw [Bool.not_eq_true']
    constructor
    · exact fun h => ⟨set, rfl, h⟩
    · rintro ⟨_, ⟨⟩, h⟩
      exact h

/-- Items that stay inside a component accept no slash. -/
lemma slash_not_mem_of_accepts (h : staysInside is) (hacc : accepts is t) : '/' ∉ t := by
  induction is generalizing t with
  | nil =>
    rw [accepts_nil_iff.mp hacc]
    exact List.not_mem_nil
  | cons i is ih =>
    obtain ⟨⟨set, rfl, hset⟩, his⟩ := staysInside_cons_iff.mp h
    obtain ⟨c, u, rfl, hc, hu⟩ := accepts_one_iff.mp hacc
    refine List.not_mem_cons_of_ne_of_not_mem ?_ (ih his hu)
    rintro rfl
    rw [hset] at hc
    cases hc

/-- Items that stay inside a component accept what comes before the first slash. -/
lemma exists_of_accepts_slash (h : staysInside is)
    (hacc : accepts (is ++ .one (.only '/') :: js) t) :
    ∃ u v, t = u ++ '/' :: v ∧ '/' ∉ u ∧ accepts is u ∧ accepts js v := by
  induction is generalizing t with
  | nil =>
    obtain ⟨c, v, rfl, hc, hv⟩ := accepts_one_iff.mp hacc
    rw [has_only_iff.mp hc]
    exact ⟨[], v, rfl, List.not_mem_nil, rfl, hv⟩
  | cons i is ih =>
    have hcons := h
    obtain ⟨⟨set, rfl, -⟩, his⟩ := staysInside_cons_iff.mp h
    obtain ⟨c, w, rfl, hc, hw⟩ := accepts_one_iff.mp hacc
    obtain ⟨u, v, rfl, -, hu, hv⟩ := ih his hw
    have hfirst : accepts (.one set :: is) (c :: u) := accepts_one_iff.mpr ⟨c, u, rfl, hc, hu⟩
    exact ⟨c :: u, v, rfl, slash_not_mem_of_accepts hcons hfirst, hfirst, hv⟩

/-- Where the items stay inside their components, what they accept with slashes in between is
accepted one by one. -/
lemma acceptEach_of_accepts {cs : List Text} (h : ∀ c ∈ cs, staysInside (itemsOf c))
    (hne : cs ≠ []) (hrest : rest ≠ []) (hslash : ∀ n ∈ rest, '/' ∉ n)
    (hacc : accepts ([.one (.only '/')].intercalate (cs.map itemsOf)) (slashed rest)) :
    AcceptEach cs rest := by
  induction cs generalizing rest with
  | nil => exact absurd rfl hne
  | cons c cs ih =>
    rw [List.forall_mem_cons] at h
    by_cases hcs : cs = []
    · subst hcs
      rw [List.map_singleton, List.intercalate_singleton] at hacc
      rw [eq_singleton_of_not_mem hrest (slash_not_mem_of_accepts h.1 hacc)]
      exact .cons hacc .nil
    · rw [List.map_cons, List.intercalate_cons_of_ne_nil (by simpa using hcs), List.append_assoc]
        at hacc
      obtain ⟨u, v, huv, hu, hfirst, hv⟩ := exists_of_accepts_slash h.1 hacc
      obtain ⟨ns, rfl, hns, rfl⟩ := exists_of_slashed_eq_cons hslash hu huv
      rw [List.forall_mem_cons] at hslash
      exact .cons hfirst (ih h.2 hcs hns hslash.2 hv)

/-- The items of several components are those of the first one, then a slash and the others. -/
lemma exists_intercalate_cons (h : itemsOf part = .run :: is) (cs : List Text) :
    ∃ js, [Item.one (.only '/')].intercalate ((part :: cs).map itemsOf) = .run :: (is ++ js) ∧
      (cs = [] ∧ js = [] ∨ cs ≠ [] ∧
        js = .one (.only '/') :: [.one (.only '/')].intercalate (cs.map itemsOf)) := by
  by_cases hcs : cs = []
  · subst hcs
    exact ⟨[], by rw [List.map_singleton, List.intercalate_singleton, h, List.append_nil],
      Or.inl ⟨rfl, rfl⟩⟩
  · refine ⟨_, ?_, Or.inr ⟨hcs, rfl⟩⟩
    rw [List.map_cons, List.intercalate_cons_of_ne_nil (by simpa using hcs), h, List.append_assoc]
    rfl

/-- With a star at the front, the components behind some directories accept what is left. -/
lemma exists_acceptEach_of_run {c : Text} {cs : List Text} (hc : itemsOf c = .run :: is)
    (his : staysInside is) (h : ∀ c ∈ cs, staysInside (itemsOf c)) (hrest : rest ≠ [])
    (hslash : ∀ n ∈ rest, '/' ∉ n)
    (hacc : accepts ([.one (.only '/')].intercalate ((c :: cs).map itemsOf)) (slashed rest)) :
    ∃ dirs ns, rest = dirs ++ ns ∧ AcceptEach (c :: cs) ns := by
  obtain ⟨js, hjs, hcases⟩ := exists_intercalate_cons hc cs
  rw [hjs] at hacc
  obtain ⟨x, y, hxy, hy⟩ := accepts_run_iff.mp hacc
  -- The star takes the directories before the component in which it ends.
  obtain ⟨dirs, ns, z, rfl, hns, hz, hnz⟩ := exists_of_slashed_eq_append hslash hrest hxy
  have hslashNs : ∀ n ∈ ns, '/' ∉ n := fun n hn => hslash n (List.mem_append_right dirs hn)
  refine ⟨dirs, ns, rfl, ?_⟩
  rcases hcases with ⟨rfl, rfl⟩ | ⟨hcs, rfl⟩
  · rw [List.append_nil] at hy
    have hnot : '/' ∉ slashed ns := by
      rw [hnz]
      exact List.not_mem_append hz (slash_not_mem_of_accepts his hy)
    rw [eq_singleton_of_not_mem hns hnot, hnz]
    refine .cons ?_ .nil
    rw [hc]
    exact accepts_run_iff.mpr ⟨z, y, rfl, hy⟩
  · obtain ⟨u, v, rfl, hu, hfirst, hv⟩ := exists_of_accepts_slash his hy
    rw [← List.append_assoc] at hnz
    obtain ⟨ms, rfl, hms, rfl⟩ := exists_of_slashed_eq_cons hslashNs (List.not_mem_append hz hu) hnz
    rw [List.forall_mem_cons] at hslashNs
    refine .cons ?_ (acceptEach_of_accepts h hcs hms hslashNs.2 hv)
    rw [hc]
    exact accepts_run_iff.mpr ⟨z, u, rfl, hfirst⟩

/-- A confined pattern that matches as a whole leads component by component. -/
theorem leadsTo_of_matchesPattern (q : PlainPattern) (hq : q.isConfined) (hne : parts ≠ [])
    (hslash : ∀ n ∈ parts, '/' ∉ n) (h : Discovery.matchesPattern (slashed parts) q.text) :
    LeadsTo q.text parts := by
  obtain ⟨dirs, rest, rfl, hrest, hdirs, hacc⟩ := (q.matchesPattern_iff hne hslash).mp h
  have hslashRest : ∀ n ∈ rest, '/' ∉ n := fun n hn => hslash n (List.mem_append_right dirs hn)
  rw [q.apart] at hacc
  obtain ⟨c, cs, hcomps⟩ := List.exists_cons_of_ne_nil q.ne_nil
  rw [isConfined, hcomps, List.map_cons] at hq
  dsimp only at hq
  rw [Bool.and_eq_true, List.all_map, List.all_eq_true, Bool.or_eq_true, Bool.and_eq_true,
    Bool.and_eq_true, beq_iff_eq] at hq
  obtain ⟨hcs, hc | ⟨⟨hdeep, hrun⟩, htail⟩⟩ := hq
  · have hall : ∀ c ∈ q.comps, staysInside (itemsOf c) := by
      rw [hcomps]
      exact List.forall_mem_cons.mpr ⟨hc, hcs⟩
    exact q.leadsTo_iff.mpr ⟨dirs, rest, rfl, hdirs,
      acceptEach_of_accepts hall q.ne_nil hrest hslashRest hacc⟩
  · obtain ⟨is, his⟩ := List.head?_eq_some_iff.mp hrun
    rw [his, List.tail_cons] at htail
    rw [hcomps] at hacc
    obtain ⟨dirs', ns, rfl, hns⟩ := exists_acceptEach_of_run his htail hcs hrest hslashRest hacc
    refine q.leadsTo_iff.mpr ⟨dirs ++ dirs', ns, (List.append_assoc dirs dirs' ns).symm, ?_, ?_⟩
    · intro hflat
      rw [hdeep] at hflat
      cases hflat
    · rwa [hcomps]

end PlainPattern

end Glob

end DesignTokens
