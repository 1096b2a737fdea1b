import DesignTokens.Glob.Pattern
import DesignTokens.Proofs.File.Tree

/-!
# Where a walk leads

The files that a walk along the steps of a pattern finds are those whose components the steps lead
along (`walk_finds`).  This says nothing about the tree but that the file is in it: whether steps
lead along components (`Leads`) is a matter of their texts alone.
-/

namespace DesignTokens

namespace Glob

variable {steps : List Step} {parts front middle : List Text} {f : FileTree} {root : Path}
  {base : Place} {names : List Text} {directoriesOnly : Bool} {l : List Path}
  {P Q : List Text → Prop}

/-- The steps lead along the components to a file.  Two stars lead along directories, so something
has to follow them. -/
inductive Leads : List Step → List Text → Prop
  /-- No step leads nowhere else. -/
  | nil : Leads [] []
  /-- A name leads to what it names. -/
  | name {steps : List Step} {parts : List Text} (n : Text) (h : Leads steps parts) :
      Leads (.name n :: steps) (n :: parts)
  /-- A wildcard pattern leads to a name that it matches. -/
  | wild {is : List Item} {n : Text} {steps : List Step} {parts : List Text}
      (hn : matchItems is n) (h : Leads steps parts) : Leads (.wild is :: steps) (n :: parts)
  /-- Two stars lead along any directories. -/
  | anyDepth {steps : List Step} {parts : List Text} (dirs : List Text) (hne : parts ≠ [])
      (h : Leads steps parts) : Leads (.anyDepth :: steps) (dirs ++ parts)

/-- An empty list of steps leads nowhere else. -/
lemma leads_nil_iff : Leads [] parts ↔ parts = [] := by
  constructor
  · rintro ⟨⟩
    rfl
  · rintro rfl
    exact .nil

/-- A name leads to what it names and on from there. -/
lemma leads_name_iff {n : Text} :
    Leads (.name n :: steps) parts ↔ ∃ rest, parts = [n] ++ rest ∧ Leads steps rest := by
  constructor
  · rintro (_ | ⟨_, h⟩)
    exact ⟨_, rfl, h⟩
  · rintro ⟨rest, rfl, h⟩
    exact .name n h

/-- A wildcard leads to every name that it matches and on from there. -/
lemma leads_wild_iff {is : List Item} :
    Leads (.wild is :: steps) parts
      ↔ ∃ n rest, parts = [n] ++ rest ∧ matchItems is n ∧ Leads steps rest := by
  constructor
  · rintro (_ | _ | ⟨hn, h⟩)
    exact ⟨_, _, rfl, hn, h⟩
  · rintro ⟨n, rest, rfl, hn, h⟩
    exact .wild hn h

/-- Two stars lead along any directories and on to something below them. -/
lemma leads_anyDepth_iff :
    Leads (.anyDepth :: steps) parts
      ↔ ∃ dirs rest, parts = dirs ++ rest ∧ rest ≠ [] ∧ Leads steps rest := by
  constructor
  · rintro (_ | _ | _ | ⟨dirs, hne, h⟩)
    exact ⟨dirs, _, rfl, hne, h⟩
  · rintro ⟨dirs, rest, rfl, hne, h⟩
    exact .anyDepth dirs hne h

/-- Where there is a step, it leads along a component. -/
lemma Leads.ne_nil (h : Leads steps parts) (hsteps : steps ≠ []) : parts ≠ [] := by
  cases h with
  | nil => exact absurd rfl hsteps
  | name n _ => exact List.cons_ne_nil n _
  | wild _ _ => exact List.cons_ne_nil _ _
  | anyDepth dirs hne _ => exact List.append_ne_nil_of_right_ne_nil dirs hne

/-- The pattern, read component by component, leads along the components to a file. -/
def LeadsTo (pattern : Text) (parts : List Text) : Prop :=
  ∃ q, Pattern.ofText pattern = .ok q ∧ q.directoriesOnly = false ∧ Leads q.steps parts

/-! ### Lists of paths -/

/-- The list has paths to what stands below a directory, and the wanted ones of all files there. -/
structure Finds (f : FileTree) (root : Path) (base : Place) (front : List Text)
    (wanted : List Text → Prop) (l : List Path) : Prop where
  /-- Something stands where the paths lead. -/
  below : ∀ q ∈ l, ∃ parts, q = root.below (front ++ parts) ∧
    (f.entry? (base ++ (front ++ parts))).isSome
  /-- The files among it are the wanted ones. -/
  files : ∀ parts content, f.entry? (base ++ (front ++ parts)) = some (.file content) →
    (root.below (front ++ parts) ∈ l ↔ wanted parts)

namespace Finds

/-- What is found depends only on which files are wanted. -/
lemma congr (h : Finds f root base front P l)
    (hPQ : ∀ parts content, f.entry? (base ++ (front ++ parts)) = some (.file content) →
      (P parts ↔ Q parts)) : Finds f root base front Q l :=
  ⟨h.below, fun parts content hfile =>
    (h.files parts content hfile).trans (hPQ parts content hfile)⟩

/-- Nothing is found where nothing is wanted. -/
lemma none : Finds f root base front (fun _ => False) [] :=
  ⟨List.forall_mem_nil _, fun _ _ _ => iff_of_false List.not_mem_nil not_false⟩

/-- What is found further down. -/
lemma above (h : Finds f root base (front ++ middle) P l) :
    Finds f root base front (fun parts => ∃ rest, parts = middle ++ rest ∧ P rest) l where
  below := by
    intro q hq
    obtain ⟨parts, rfl, hsome⟩ := h.below q hq
    rw [List.append_assoc] at hsome
    exact ⟨middle ++ parts, by rw [List.append_assoc], hsome⟩
  files := by
    intro parts content hfile
    constructor
    · intro hmem
      obtain ⟨rest, heq, -⟩ := h.below _ hmem
      rw [Path.below_inj, List.append_assoc, List.append_cancel_left_eq] at heq
      subst heq
      rw [← List.append_assoc front] at hfile hmem
      exact ⟨rest, rfl, (h.files rest content hfile).mp hmem⟩
    · rintro ⟨rest, rfl, hrest⟩
      rw [← List.append_assoc front] at hfile ⊢
      exact (h.files rest content hfile).mpr hrest

/-- What is found in several places. -/
lemma joined {α : Type} {xs : List α} {g : α → Except PathFault (List Path)}
    {R : α → List Text → Prop}
    (h : ∀ x ∈ xs, ∃ l, g x = .ok l ∧ Finds f root base front (R x) l) :
    ∃ l, Glob.joined (xs.map g) = .ok l ∧
      Finds f root base front (fun parts => ∃ x ∈ xs, R x parts) l := by
  induction xs with
  | nil => exact ⟨[], rfl, Finds.none.congr fun _ _ _ => by simp⟩
  | cons x xs ih =>
    rw [List.forall_mem_cons] at h
    obtain ⟨⟨l, hl, hfinds⟩, hrest⟩ := h
    obtain ⟨ls, hls, hfindsRest⟩ := ih hrest
    have hjoined : Glob.joined (g x :: xs.map g) = .ok (l ++ ls) := by
      rw [Glob.joined, hl, List.mapM_cons]
      rw [Glob.joined] at hls
      cases hmap : (xs.map g).mapM id with
      | error e =>
        rw [hmap] at hls
        cases hls
      | ok lists =>
        rw [hmap] at hls
        cases hls
        rfl
    refine ⟨l ++ ls, hjoined, ?_, ?_⟩
    · intro q hq
      exact (List.mem_append.mp hq).elim (hfinds.below q) (hfindsRest.below q)
    · intro parts content hfile
      rw [List.mem_append, hfinds.files parts content hfile, hfindsRest.files parts content hfile,
        List.exists_mem_cons_iff]

end Finds

/-! ### The walk -/

/-- Where steps lead further down to a file, there is a directory, unless they have come to an
end. -/
lemma directory_of_leads (h : f.CanSearch root base names) {n : Text} {content : Bytes}
    (hfile : f.entry? (base ++ (front ++ ([n] ++ parts))) = some (.file content))
    (hleads : Leads steps parts) (hsteps : steps ≠ []) :
    f.entry? (base ++ (front ++ [n])) = some .directory := by
  refine h.wellFormed.directory_of_below (hleads.ne_nil hsteps) ?_
  rw [List.append_assoc, List.append_assoc, hfile]
  rfl

/-- Something stands on the way to a file. -/
lemma exists_entry_of_below (h : f.CanSearch root base names) {n : Text} {content : Bytes}
    (hfile : f.entry? (base ++ (front ++ ([n] ++ parts))) = some (.file content)) :
    ∃ e, f.entry? (base ++ (front ++ [n])) = some e := by
  by_cases hparts : parts = []
  · rw [hparts, List.append_nil] at hfile
    exact ⟨_, hfile⟩
  · refine ⟨_, h.wellFormed.directory_of_below hparts ?_⟩
    rw [List.append_assoc, List.append_assoc, hfile]
    rfl

/-- A name is walked along if something is there, which has to be a directory if the walk goes on.
-/
lemma walk_name {p : Path} {n : Text} {found : Option FileEntry}
    (hlook : f.look? (p.child n) = .ok found) :
    walk f directoriesOnly (.name n :: steps) p
      = found.elim (.ok []) fun e =>
          if (directoriesOnly || !steps.isEmpty) && e != .directory then .ok []
          else walk f directoriesOnly steps (p.child n) := by
  rw [walk]
  simp only [FileTree.isDirectory, FileTree.exists?, hlook]
  cases directoriesOnly || !steps.isEmpty with
  | true => rcases found with _ | _ | _ <;> rfl
  | false => rcases found with _ | _ | _ <;> rfl

/-- A walk from the place ends, and finds the files along whose components the steps lead. -/
def WalkFinds (f : FileTree) (root : Path) (base : Place) (directoriesOnly : Bool)
    (steps : List Step) (front : List Text) : Prop :=
  ∃ l, walk f directoriesOnly steps (root.below front) = .ok l ∧
    Finds f root base front (fun parts => directoriesOnly = false ∧ Leads steps parts) l

/-- Walks end and find what they should from everything where the steps may go on. -/
def WalksFind (f : FileTree) (root : Path) (base : Place) (directoriesOnly : Bool)
    (steps : List Step) : Prop :=
  ∀ ⦃front : List Text⦄ ⦃e : FileEntry⦄, f.entry? (base ++ front) = some e →
    ((directoriesOnly || !steps.isEmpty) = true → e = .directory) →
      WalkFinds f root base directoriesOnly steps front

/-- A walk that goes on from one name, if it may do so. -/
lemma exists_finds_child (h : f.CanSearch root base names) {n : Text} {e : FileEntry}
    (he : f.entry? (base ++ (front ++ [n])) = some e)
    (hwalk : WalksFind f root base directoriesOnly steps) :
    ∃ l, (if (directoriesOnly || !steps.isEmpty) && e != .directory then .ok []
        else walk f directoriesOnly steps (root.below (front ++ [n]))) = .ok l ∧
      Finds f root base front (fun parts => ∃ rest, parts = [n] ++ rest ∧
        directoriesOnly = false ∧ Leads steps rest) l := by
  by_cases hstop : ((directoriesOnly || !steps.isEmpty) && e != .directory) = true
  · rw [if_pos hstop]
    refine ⟨[], rfl, Finds.none.congr ?_⟩
    rintro parts content hfile
    rw [false_iff]
    rintro ⟨rest, rfl, hfiles, hleads⟩
    rw [hfiles, Bool.false_or, Bool.and_eq_true, Bool.not_eq_true', List.isEmpty_eq_false_iff,
      bne_iff_ne] at hstop
    have hdirectory := directory_of_leads h hfile hleads hstop.1
    rw [he, Option.some.injEq] at hdirectory
    exact hstop.2 hdirectory
  · rw [if_neg hstop]
    obtain ⟨l, hl, hfinds⟩ := hwalk he fun hmust => by
      rw [hmust, Bool.true_and, bne_iff_ne, not_not] at hstop
      exact hstop
    exact ⟨l, hl, hfinds.above⟩

/-- Without a step, a walk finds where it is. -/
lemma walksFind_nil : WalksFind f root base directoriesOnly [] := by
  intro front e he hdir
  refine ⟨[root.below front], rfl, ?_, ?_⟩
  · intro q hq
    rw [List.mem_singleton] at hq
    exact ⟨[], by rw [hq, List.append_nil], by rw [List.append_nil, he]; rfl⟩
  · intro parts content hfile
    rw [List.mem_singleton, Path.below_inj, List.append_right_eq_self, leads_nil_iff]
    constructor
    · rintro rfl
      rw [List.append_nil, he] at hfile
      cases hfile
      cases hdirectories : directoriesOnly with
      | false => exact ⟨rfl, rfl⟩
      | true =>
        rw [hdirectories] at hdir
        cases hdir rfl
    · exact And.right

/-- A step by a name. -/
lemma walkFinds_name (h : f.CanSearch root base names) {n : Text} (hn : n ∈ names)
    (hplace : f.entry? (base ++ front) = some .directory)
    (hwalk : WalksFind f root base directoriesOnly steps) :
    WalkFinds f root base directoriesOnly (.name n :: steps) front := by
  have hlook := h.look?_name hn hplace
  rw [← Path.child_below] at hlook
  rw [WalkFinds, walk_name hlook]
  cases hentry : f.entry? (base ++ (front ++ [n])) with
  | none =>
    refine ⟨[], rfl, Finds.none.congr fun parts content hfile => ?_⟩
    rw [leads_name_iff, false_iff]
    rintro ⟨-, rest, rfl, -⟩
    obtain ⟨e, he⟩ := exists_entry_of_below h hfile
    rw [hentry] at he
    cases he
  | some e =>
    obtain ⟨l, hl, hfinds⟩ := exists_finds_child h hentry hwalk
    rw [← Path.child_below] at hl
    refine ⟨l, hl, hfinds.congr fun parts content _ => ?_⟩
    rw [leads_name_iff]
    tauto

/-- What is found below one of the children. -/
lemma exists_finds_wild (h : f.CanSearch root base names) (is : List Item)
    (hwalk : WalksFind f root base directoriesOnly steps) {x : Text × FileEntry}
    (hx : x ∈ f.children (base ++ front)) :
    ∃ l, (if ((directoriesOnly || !steps.isEmpty) && x.2 != .directory) || !matchItems is x.1 then
          .ok []
        else walk f directoriesOnly steps ((root.below front).child x.1)) = .ok l ∧
      Finds f root base front (fun parts => matchItems is x.1 = true ∧
        ∃ rest, parts = [x.1] ++ rest ∧ directoriesOnly = false ∧ Leads steps rest) l := by
  rw [FileTree.mem_children_iff, List.append_assoc] at hx
  cases hmatch : matchItems is x.1 with
  | false => exact ⟨[], by simp, Finds.none.congr fun _ _ _ => by simp⟩
  | true =>
    obtain ⟨l, hl, hfinds⟩ := exists_finds_child h hx hwalk
    refine ⟨l, ?_, hfinds.congr fun _ _ _ => by simp⟩
    rw [Path.child_below, ← hl, Bool.not_true, Bool.or_false]

/-- A step by a wildcard pattern. -/
lemma walkFinds_wild (h : f.CanSearch root base names) (is : List Item)
    (hplace : f.entry? (base ++ front) = some .directory)
    (hwalk : WalksFind f root base directoriesOnly steps) :
    WalkFinds f root base directoriesOnly (.wild is :: steps) front := by
  have hlocate : f.locate (root.below front) = .ok (base ++ front) :=
    h.locate_entry (by rw [hplace]; rfl)
  obtain ⟨l, hl, hfinds⟩ := Finds.joined fun x hx => exists_finds_wild h is hwalk (x := x) hx
  refine ⟨l, ?_, hfinds.congr ?_⟩
  · rw [walk]
    simp only [hlocate]
    exact hl
  · intro parts content hfile
    rw [leads_wild_iff]
    constructor
    · rintro ⟨⟨n, e⟩, -, hmatch, rest, hparts, hfiles, hleads⟩
      exact ⟨hfiles, n, rest, hparts, hmatch, hleads⟩
    · rintro ⟨hfiles, n, rest, rfl, hmatch, hleads⟩
      obtain ⟨e, he⟩ := exists_entry_of_below h hfile
      rw [← List.append_assoc, ← FileTree.mem_children_iff] at he
      exact ⟨(n, e), he, hmatch, rest, rfl, hfiles, hleads⟩

/-- A step along any directories. -/
lemma walkFinds_anyDepth (h : f.CanSearch root base names)
    (hplace : f.entry? (base ++ front) = some .directory)
    (hwalk : WalksFind f root base directoriesOnly steps) :
    WalkFinds f root base directoriesOnly (.anyDepth :: steps) front := by
  have hlocate : f.locate (root.below front) = .ok (base ++ front) :=
    h.locate_entry (by rw [hplace]; rfl)
  have hbelow : ∀ dirs ∈ f.directoriesBelow (base ++ front), ∃ l,
      walk f directoriesOnly steps { root.below front with
        parts := (root.below front).parts ++ dirs } = .ok l ∧
      Finds f root base front (fun parts => ∃ rest, parts = dirs ++ rest ∧
        directoriesOnly = false ∧ Leads steps rest) l := by
    intro dirs hdirs
    rw [FileTree.mem_directoriesBelow_iff hplace, List.append_assoc] at hdirs
    obtain ⟨l, hl, hfinds⟩ := hwalk hdirs fun _ => rfl
    refine ⟨l, ?_, hfinds.above⟩
    rw [← hl, Path.below, Path.below, List.append_assoc]
  obtain ⟨l, hl, hfinds⟩ := Finds.joined hbelow
  refine ⟨l, ?_, hfinds.congr ?_⟩
  · rw [walk]
    simp only [hlocate]
    exact hl
  · intro parts content hfile
    rw [leads_anyDepth_iff]
    constructor
    · rintro ⟨dirs, hdirs, rest, rfl, hfiles, hleads⟩
      refine ⟨hfiles, dirs, rest, rfl, ?_, hleads⟩
      -- A directory is no file.
      rintro rfl
      rw [FileTree.mem_directoriesBelow_iff hplace, List.append_assoc] at hdirs
      rw [List.append_nil, hdirs] at hfile
      cases hfile
    · rintro ⟨hfiles, dirs, rest, rfl, hne, hleads⟩
      refine ⟨dirs, ?_, rest, rfl, hfiles, hleads⟩
      rw [FileTree.mem_directoriesBelow_iff hplace, List.append_assoc]
      refine h.wellFormed.directory_of_below hne ?_
      rw [List.append_assoc, List.append_assoc, hfile]
      rfl

/-- A walk ends, and finds the files along whose components the steps lead. -/
theorem walk_finds (h : f.CanSearch root base names)
    (hnames : ∀ n, .name n ∈ steps → n ∈ names) :
    WalksFind f root base directoriesOnly steps := by
  induction steps with
  | nil => exact walksFind_nil
  | cons step steps ih =>
    intro front e he hdir
    have hplace : f.entry? (base ++ front) = some .directory := by
      rw [he, hdir (by simp)]
    have hwalk := ih fun n hn => hnames n (List.mem_cons_of_mem _ hn)
    cases step with
    | name n => exact walkFinds_name h (hnames n List.mem_cons_self) hplace hwalk
    | wild is => exact walkFinds_wild h is hplace hwalk
    | anyDepth => exact walkFinds_anyDepth h hplace hwalk

/-- Searching along a pattern ends, and finds the files along whose components its steps lead. -/
theorem Pattern.exists_paths (q : Pattern) (h : f.CanSearch root base names)
    (hnames : ∀ n, .name n ∈ q.steps → n ∈ names) :
    ∃ l, q.paths f root = .ok l ∧
      Finds f root base [] (fun parts => q.directoriesOnly = false ∧ Leads q.steps parts) l := by
  have hbase : f.entry? (base ++ []) = some .directory := by
    rw [List.append_nil]
    exact h.directory
  have hlook := h.look?_below hbase
  obtain ⟨l, hl, hfinds⟩ : WalkFinds f root base q.directoriesOnly q.steps [] :=
    walk_finds h hnames hbase fun _ => rfl
  rw [Path.below_nil] at hlook hl
  refine ⟨l.mergeSort fun p r => Path.partsLe p.parts r.parts, ?_, ?_, ?_⟩
  · rw [paths, FileTree.isDirectory, hlook]
    exact congrArg (Except.map _) hl
  · exact fun p hp => hfinds.below p (List.mem_mergeSort.mp hp)
  · intro parts content hfile
    rw [List.mem_mergeSort]
    exact hfinds.files parts content hfile

end Glob

end DesignTokens
