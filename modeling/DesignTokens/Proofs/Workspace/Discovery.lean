import DesignTokens.Proofs.Glob.Reading

/-!
# The two ways to look for files

Searching the tree and asking of one path whether it matches read the patterns in different ways.
They agree on a file exactly where both readings of the patterns, or neither, accept its path
(`Discovery.agrees_iff`).  For plain patterns the search finds nothing that would not match; for
confined ones, such as the usual patterns, the two agree on every file.
-/

namespace DesignTokens

namespace Discovery

variable {f : FileTree} {d : Discovery} {base : Place} {parts : List Text}

/-! ### Gathering -/

/-- The path leads to a file outside the excluded directories. -/
def Takes (f : FileTree) (d : Discovery) (p : Path) : Prop :=
  f.isFile p = .ok true ∧ d.excludes ((p.relativeTo? d.root).getD []) = false

/-- A path is passed over unless it is to be taken and not yet found. -/
lemma passedOver_iff {p : Path} {b : Bool} (hb : f.isFile p = .ok b) (found : List Path) :
    (!b || found.contains p || d.excludes ((p.relativeTo? d.root).getD [])) = true
      ↔ (Takes f d p → p ∈ found) := by
  rw [Takes, hb, Except.ok.injEq]
  cases b <;> cases d.excludes ((p.relativeTo? d.root).getD []) <;> simp

/-- Paths that can be looked up are gathered if they lead to files outside the excluded
directories. -/
lemma exists_gather (d : Discovery) {ps : List Path} (hps : ∀ p ∈ ps, ∃ b, f.isFile p = .ok b)
    (found : List Path) :
    ∃ all : List Path, found.length ≤ all.length ∧
      (∀ m : Int, (all.length : Int) < m →
        gather f { d with maxFiles := m } found ps = .ok (all, false)) ∧
      ∀ p, p ∈ all ↔ p ∈ found ∨ p ∈ ps ∧ Takes f d p := by
  induction ps generalizing found with
  | nil => exact ⟨found, le_rfl, fun _ _ => rfl, fun p => by simp⟩
  | cons p ps ih =>
    rw [List.forall_mem_cons] at hps
    obtain ⟨⟨b, hb⟩, hps⟩ := hps
    by_cases hskip : (!b || found.contains p || d.excludes ((p.relativeTo? d.root).getD [])) = true
    · have hold := (passedOver_iff hb found).mp hskip
      obtain ⟨all, hlength, hgather, hall⟩ := ih hps found
      refine ⟨all, hlength, fun m hm => ?_, fun r => ?_⟩
      · rw [gather, hb]
        exact (if_pos hskip).trans (hgather m hm)
      · rw [hall, List.mem_cons]
        rcases eq_or_ne r p with rfl | hr <;> tauto
    · have hnew : Takes f d p ∧ p ∉ found :=
        Classical.not_imp.mp (mt (passedOver_iff hb found).mpr hskip)
      obtain ⟨all, hlength, hgather, hall⟩ := ih hps (found ++ [p])
      rw [List.length_append, List.length_singleton] at hlength
      refine ⟨all, by omega, fun m hm => ?_, fun r => ?_⟩
      · -- The limit is above all that will be gathered, so it is not reached with this file.
        have hmore : ¬ m ≤ ((found ++ [p]).length : Int) := by
          rw [List.length_append, List.length_singleton]
          omega
        rw [gather, hb]
        exact (if_neg hskip).trans ((if_neg hmore).trans (hgather m hm))
      · rw [hall, List.mem_append, List.mem_singleton, List.mem_cons]
        rcases eq_or_ne r p with rfl | hr <;> tauto

/-! ### Searching -/

/-- The names that a pattern has among its components. -/
def namesOf (t : Text) : List Text :=
  match Glob.Pattern.ofText t with
  | .ok q => q.steps.filterMap fun
      | .name n => some n
      | _ => none
  | .error _ => []

/-- The names that are looked up. -/
def names (d : Discovery) : List Text :=
  d.patterns.flatMap namesOf

/-- The names of a pattern are looked up. -/
lemma mem_names {t n : Text} {q : Glob.Pattern} (ht : t ∈ d.patterns)
    (hq : Glob.Pattern.ofText t = .ok q) (hn : .name n ∈ q.steps) : n ∈ d.names := by
  refine List.mem_flatMap.mpr ⟨t, ht, ?_⟩
  rw [namesOf, hq]
  exact List.mem_filterMap.mpr ⟨.name n, hn, rfl⟩

/-- The root leads to a directory, everything below it can be looked up, and each pattern is one
along which files can be looked for. -/
structure CanRun (f : FileTree) (d : Discovery) (base : Place) : Prop where
  /-- Everything that is looked up can be. -/
  search : f.CanSearch d.root base d.names
  /-- The patterns can be read. -/
  read : ∀ t ∈ d.patterns, ∃ q, Glob.Pattern.ofText t = .ok q

/-- A search along patterns ends.  Of the files below the root it adds those to which one of the
patterns leads, outside the excluded directories. -/
lemma exists_searchFrom (h : CanRun f d base) {ts : List Text} (hts : ∀ t ∈ ts, t ∈ d.patterns)
    (found : List Path) :
    ∃ all : List Path, found.length ≤ all.length ∧
      (∀ m : Int, (all.length : Int) < m →
        searchFrom f { d with maxFiles := m } found ts = .ok all) ∧
      ∀ parts content, f.entry? (base ++ parts) = some (.file content) →
        (d.root.below parts ∈ all ↔ d.root.below parts ∈ found ∨
          d.excludes parts = false ∧ ∃ t ∈ ts, Glob.LeadsTo t parts) := by
  induction ts generalizing found with
  | nil => exact ⟨found, le_rfl, fun _ _ => rfl, fun _ _ _ => by simp⟩
  | cons t ts ih =>
    rw [List.forall_mem_cons] at hts
    obtain ⟨q, hq⟩ := h.read t hts.1
    obtain ⟨l, hl, hfinds⟩ := q.exists_paths h.search fun n => mem_names hts.1 hq
    have hfiles : ∀ p ∈ l, ∃ b, f.isFile p = .ok b := by
      intro p hp
      obtain ⟨parts, rfl, hsome⟩ := hfinds.below p hp
      obtain ⟨e, he⟩ := Option.isSome_iff_exists.mp hsome
      rw [FileTree.isFile, h.search.look?_below he]
      exact ⟨_, rfl⟩
    obtain ⟨more, hmore, hgather, hmem⟩ := exists_gather d hfiles found
    obtain ⟨all, hall, hsearch, hmemAll⟩ := ih hts.2 more
    refine ⟨all, hmore.trans hall, fun m hm => ?_, fun parts content hfile => ?_⟩
    · have hgathered := hgather m (by omega)
      rw [searchFrom, hq]
      simp only [bind, Except.bind, hl, hgathered, Except.mapError]
      exact hsearch m hm
    · have hisFile : f.isFile (d.root.below parts) = .ok true := by
        rw [FileTree.isFile, h.search.look?_below hfile]
        rfl
      have hleads : d.root.below parts ∈ l ↔ Glob.LeadsTo t parts := by
        have hwanted := hfinds.files parts content hfile
        rw [List.nil_append] at hwanted
        rw [hwanted, Glob.LeadsTo, hq]
        constructor
        · exact fun hlead => ⟨q, rfl, hlead⟩
        · rintro ⟨_, ⟨⟩, hlead⟩
          exact hlead
      rw [hmemAll parts content hfile, hmem, Takes, Path.relativeTo?_below, hleads,
        Option.getD_some, List.exists_mem_cons_iff]
      tauto

/-- A search without a limit ends.  It finds the files to which one of the patterns leads, outside
the excluded directories. -/
theorem exists_findFiles (h : CanRun f d base) :
    ∃ found : List Path,
      (∀ m : Int, (found.length : Int) < m → findFiles f { d with maxFiles := m } = .ok found) ∧
      ∀ parts content, f.entry? (base ++ parts) = some (.file content) →
        (d.root.below parts ∈ found ↔
          d.excludes parts = false ∧ ∃ t ∈ d.patterns, Glob.LeadsTo t parts) := by
  obtain ⟨found, -, hsearch, hmem⟩ := exists_searchFrom h (fun _ ht => ht) []
  refine ⟨found, hsearch, fun parts content hfile => ?_⟩
  rw [hmem parts content hfile, or_iff_right List.not_mem_nil]

/-- A path below the root matches if one of the patterns matches it as a whole, outside the excluded
directories. -/
lemma isMatch_below_iff (hparts : parts ≠ []) :
    d.isMatch (d.root.below parts) ↔
      d.excludes parts = false ∧ ∃ t ∈ d.patterns, matchesPattern (slashed parts) t := by
  have htext : (Path.mk .none parts).text = slashed parts := by
    rw [Path.text, if_neg (fun h => hparts h.2)]
    rfl
  rw [isMatch, Path.relativeTo?_below]
  dsimp only
  rw [htext, Bool.and_eq_true, Bool.not_eq_true', List.any_eq_true]

/-! ### Agreement -/

/-- The pattern is plain, and no wildcard of it can take a slash, but for a star that stands for
directories as well. -/
def IsConfined (t : Text) : Prop :=
  ∃ q : Glob.PlainPattern, q.text = t ∧ q.isConfined

/-- A component behind two stars makes a confined pattern, if it has no wildcard but a star at its
front, or sets without a slash. -/
lemma isConfined_of_component {c : Text} (hname : IsName c)
    (hsingle : Text.occurs "**".toList c = false)
    (hitems : Glob.PlainPattern.staysInside (Glob.itemsOf c) ||
      (Glob.itemsOf c).head? == some .run && Glob.PlainPattern.staysInside (Glob.itemsOf c).tail) :
    IsConfined ("**/".toList ++ c) := by
  let q : Glob.PlainPattern :=
    { deep := true
      comps := [c]
      ne_nil := List.cons_ne_nil c []
      isName := List.forall_mem_singleton.mpr hname
      single := List.forall_mem_singleton.mpr hsingle
      apart := by rw [slashed_singleton, List.map_singleton, List.intercalate_singleton] }
  refine ⟨q, ?_, ?_⟩
  · rw [Glob.PlainPattern.text, if_pos rfl, slashed_singleton]
  · rw [Glob.PlainPattern.isConfined]
    simpa [q] using hitems

/-- The patterns that are used when settings give none are confined. -/
theorem isConfined_of_mem_defaultPatterns :
    ∀ t ∈ (defaultPatterns.map String.toList).flatMap Glob.expandBraces, IsConfined t := by
  have hall : ∀ t ∈ (defaultPatterns.map String.toList).flatMap Glob.expandBraces,
      t = "**/".toList ++ t.drop 3 ∧ IsName (t.drop 3) ∧
        Text.occurs "**".toList (t.drop 3) = false ∧
        (Glob.PlainPattern.staysInside (Glob.itemsOf (t.drop 3)) ||
          (Glob.itemsOf (t.drop 3)).head? == some .run &&
            Glob.PlainPattern.staysInside (Glob.itemsOf (t.drop 3)).tail) := by
    decide +kernel
  intro t ht
  obtain ⟨hlead, hname, hsingle, hitems⟩ := hall t ht
  rw [hlead]
  exact isConfined_of_component hname hsingle hitems

/-- The search and the question agree on a file exactly where both readings of the patterns, or
neither, accept its path, or it is in an excluded directory.  Along plain patterns the search finds
only what matches, and along confined ones it finds exactly what matches. -/
theorem agrees_iff (h : CanRun f d base) :
    ∃ found : List Path,
      (∀ m : Int, (found.length : Int) < m → findFiles f { d with maxFiles := m } = .ok found) ∧
      ∀ parts content, f.entry? (base ++ parts) = some (.file content) →
        ((d.isMatch (d.root.below parts) ↔ d.root.below parts ∈ found) ↔
          d.excludes parts ∨ ((∃ t ∈ d.patterns, matchesPattern (slashed parts) t) ↔
            ∃ t ∈ d.patterns, Glob.LeadsTo t parts)) ∧
        ((∀ t ∈ d.patterns, ∃ q : Glob.PlainPattern, q.text = t) →
          d.root.below parts ∈ found → d.isMatch (d.root.below parts)) ∧
        ((∀ t ∈ d.patterns, IsConfined t) →
          (d.isMatch (d.root.below parts) ↔ d.root.below parts ∈ found)) := by
  obtain ⟨found, hrun, hfound⟩ := exists_findFiles h
  refine ⟨found, hrun, fun parts content hfile => ?_⟩
  have hne : parts ≠ [] := by
    rintro rfl
    rw [List.append_nil, h.search.directory] at hfile
    cases hfile
  have hslash : ∀ n ∈ parts, '/' ∉ n := by
    have hsome : (f.entry? (base ++ parts)).isSome := by rw [hfile]; rfl
    exact fun n hn => (h.search.wellFormed.isName_of_below hsome n hn).2.2.2
  rw [isMatch_below_iff hne, hfound parts content hfile]
  refine ⟨?_, ?_, ?_⟩
  · cases d.excludes parts <;> simp
  · rintro hplain ⟨hnot, t, ht, hleads⟩
    obtain ⟨q, rfl⟩ := hplain t ht
    exact ⟨hnot, _, ht, q.matchesPattern_of_leadsTo hslash hleads⟩
  · intro hconfined
    refine and_congr_right fun _ => exists_congr fun t => and_congr_right fun ht => ?_
    obtain ⟨q, rfl, hq⟩ := hconfined t ht
    exact ⟨q.leadsTo_of_matchesPattern hq hne hslash, q.matchesPattern_of_leadsTo hslash⟩

/-- With the usual patterns, a file that matches is found. -/
theorem agrees_on_default_patterns :
    let f := (FileTree.start ["w".toList]).write ["w".toList, "src".toList, "tokens.css".toList] []
    let d :=
      Discovery.new (Path.ofString "/w") (defaultPatterns.map String.toList) usualExclude 100 50
    let p := Path.ofString "/w/src/tokens.css"
    ∃ found : List Path,
      (∀ m : Int, (found.length : Int) < m → findFiles f { d with maxFiles := m } = .ok found) ∧
        p ∈ found := by
  intro f d p
  have hsearch : f.CanSearch d.root ["w".toList] d.names :=
    { wellFormed := ⟨by decide +kernel, by decide +kernel, by decide +kernel⟩
      root_fit := by decide +kernel
      locate := by decide +kernel
      directory := by decide +kernel
      fit := by decide +kernel
      names := by decide +kernel }
  have hrun : CanRun f d ["w".toList] := by
    refine ⟨hsearch, fun t ht => ?_⟩
    obtain ⟨q, rfl, -⟩ := isConfined_of_mem_defaultPatterns t ht
    exact ⟨_, q.ofText_text⟩
  obtain ⟨found, hfound, hagrees⟩ := agrees_iff hrun
  have hfile :
      f.entry? (["w".toList] ++ ["src".toList, "tokens.css".toList]) = some (.file []) := by
    decide +kernel
  have hmatch : d.isMatch (d.root.below ["src".toList, "tokens.css".toList]) := by decide +kernel
  have hpath : d.root.below ["src".toList, "tokens.css".toList] = p := by decide +kernel
  rw [← hpath]
  exact ⟨found, hfound, ((hagrees _ _ hfile).2.2 isConfined_of_mem_defaultPatterns).mp hmatch⟩

/-- A star that is not behind two stars takes the slash in a path that matches. -/
theorem isMatch_of_star_not_found :
    let f := (FileTree.start ["w".toList]).write ["w".toList, "src".toList, "app.css".toList] []
    let d := Discovery.new (Path.ofString "/w") ["*.css".toList] [] 100 50
    let p := Path.ofString "/w/src/app.css"
    f.isFile p = .ok true ∧ d.isMatch p = true ∧ findFiles f d = .ok [] := by
  decide +kernel

end Discovery

end DesignTokens
