import DesignTokens.Proofs.Workspace.Discovery
import DesignTokens.Proofs.Workspace.InStep

/-!
# Searching twice

A second search, with nothing in between, looks at the files of the first one once more.  A file
may be passed over for many reasons: it is of no kind, it is remembered, it defines no tokens, there
is a source with its identity, or its source is not valid.  Whatever the reason, the file is passed
over from then on, for as long as sources stay attached and files stay remembered
(`Grown.passesOver`); and a file that is added is remembered, so that it is passed over the next
time (`passesOver_again`).  Passing over leaves nothing but an entry in the journal behind
(`remarked_acceptFile`), so that a second search adds nothing and tells nobody
(`scan_again_adds_nothing`).
-/

namespace DesignTokens

namespace Discovery

variable {f : FileTree} {d : Discovery} {base : Place}

/-! ### Searches that end -/

/-- Gathering ends if each path can be looked up. -/
lemma exists_gather_eq_ok {ps : List Path} (hps : ∀ p ∈ ps, ∃ b, f.isFile p = .ok b)
    (found : List Path) : ∃ result, gather f d found ps = .ok result := by
  induction ps generalizing found with
  | nil => exact ⟨_, rfl⟩
  | cons p ps ih =>
    rw [List.forall_mem_cons] at hps
    obtain ⟨⟨b, hb⟩, hps⟩ := hps
    rw [gather, hb]
    simp only [bind, Except.bind]
    split
    · exact ih hps found
    · split
      · exact ⟨_, rfl⟩
      · exact ih hps _

/-- Searching along patterns ends. -/
lemma exists_searchFrom_eq_ok (h : CanRun f d base) {ts : List Text}
    (hts : ∀ t ∈ ts, t ∈ d.patterns) (found : List Path) :
    ∃ all, searchFrom f d found ts = .ok all := by
  induction ts generalizing found with
  | nil => exact ⟨_, rfl⟩
  | cons t ts ih =>
    rw [List.forall_mem_cons] at hts
    obtain ⟨q, hq⟩ := h.read t hts.1
    obtain ⟨l, hl, hfinds⟩ := q.exists_paths h.search fun n => mem_names hts.1 hq
    have hfiles : ∀ p ∈ l, ∃ b, f.isFile p = .ok b := by
      intro p hp
      obtain ⟨parts, rfl, hsome⟩ := hfinds.below p hp
      obtain ⟨e, he⟩ := Option.isSome_iff_exists.mp hsome
      rw [FileTree.isFile, h.search.look?_below he]
      exact ⟨_, rfl⟩
    obtain ⟨⟨more, enough⟩, hgather⟩ := exists_gather_eq_ok (d := d) hfiles found
    rw [searchFrom, hq]
    simp only [bind, Except.bind, hl, hgather, Except.mapError]
    cases enough with
    | true => exact ⟨_, rfl⟩
    | false => exact ih hts.2 more

/-- A search that can run ends, with or without a limit. -/
lemma CanRun.exists_findFiles_eq_ok (h : CanRun f d base) : ∃ ps, d.findFiles f = .ok ps :=
  exists_searchFrom_eq_ok h (fun _ ht => ht) []

end Discovery

/-- Of a file it can be said whether it defines tokens. -/
lemma FileTree.exists_definesTokens {f : FileTree} {p : Path} (hp : f.isFile p = .ok true)
    (kind : SourceKind) : ∃ b, f.definesTokens p kind = .ok b := by
  have hfit : p.fault? = none := by
    rw [isFile, look?] at hp
    split at hp
    · cases hp
    · next hfit => exact Option.not_isSome_iff_eq_none.mp hfit
  rw [definesTokens]
  split
  · exact ⟨_, rfl⟩
  · next why hread =>
    -- A path that can be handed to the file system is not the reason why a file cannot be read.
    exfalso
    rw [readText, read, hfit] at hread
    dsimp only at hread
    cases hplace : f.locate p with
    | error e =>
      rw [hplace] at hread
      cases hread
    | ok place =>
      rw [hplace] at hread
      rcases hentry : f.entry? place with - | - | content
      · simp [hentry, bind, Except.bind] at hread
      · simp [hentry, bind, Except.bind] at hread
      · simp only [hentry, bind, Except.bind] at hread
        split at hread <;> cases hread
  · exact ⟨_, rfl⟩

/-- Of the source for a file it can be said whether it is valid. -/
lemma Source.exists_isValid {f : FileTree} {p : Path} (hf : f.IsWellFormed)
    (hp : f.isFile p = .ok true) (place : DatasetPlace) (d : Discovery) (kind : SourceKind) :
    ∃ b, (Source.ofDescriptor place (d.descriptorOf kind p)).isValid f = .ok b := by
  rw [isValid, Workspace.path?_ofDescriptor_of_isFile hf hp]
  split
  · exact ⟨_, rfl⟩
  · split
    · exact ⟨_, rfl⟩
    · exact ⟨_, rfl⟩
    · next heq =>
      cases heq
      exact ⟨_, hp⟩
    · next heq =>
      cases heq
      split
      · exact ⟨_, hp⟩
      · exact ⟨_, rfl⟩
    · exact ⟨_, rfl⟩

namespace Workspace

variable {w w' : Workspace} {d : Discovery} {e : SourceDescriptor} {n : ℕ} {p : Path}

/-! ### Looking at a file -/

/-- What comes out of looking at a file. -/
lemma outcome_acceptFile (w : Workspace) (n : ℕ) (p : Path) :
    (w.acceptFile n p).1 = match w.discoveries[n]?, SourceKind.ofPath? p with
      | some d, some kind =>
          if d.discovered.contains (d.descriptorOf kind p).sourceId then .ok false
          else (w.files.definesTokens p kind).bind fun defines =>
            if defines then (w.attach (d.descriptorOf kind p)).1 else .ok false
      | _, _ => .ok false := by
  rw [acceptFile]
  rcases w.discoveries[n]? with - | d
  · rfl
  rcases SourceKind.ofPath? p with - | kind
  · rfl
  dsimp only
  split
  · rfl
  rcases w.files.definesTokens p kind with why | - | -
  · rfl
  · rfl
  · dsimp only [Except.bind]
    rw [if_pos rfl, ← outcome_addSource]
    split
    · next heq => rw [heq]
    · next heq => rw [heq]

/-- A file that adds no source leaves nothing but an entry in the journal behind. -/
lemma remarked_acceptFile (h : (w.acceptFile n p).1 ≠ .ok true) :
    w.Remarked (w.acceptFile n p).2 := by
  revert h
  rw [acceptFile]
  split
  · next d kind _ _ =>
    dsimp only
    split
    · exact fun _ => ⟨_, rfl⟩
    · split
      · exact fun _ => ⟨_, rfl⟩
      · exact fun _ => ⟨_, rfl⟩
      · split
        · exact fun h => absurd rfl h
        · next outcome v hnot heq =>
          intro _
          have hnew : (w.attach (d.descriptorOf kind p)).1 ≠ .ok true := by
            rw [← outcome_addSource, heq]
            exact hnot
          have hattach := remarked_attach hnew
          rw [← addSource_of_not_joined hnew, heq] at hattach
          exact hattach
  · exact fun _ => ⟨_, rfl⟩

/-- A file that adds a source is new to the discovery, and remembered then. -/
lemma acceptFile_of_added (h : (w.acceptFile n p).1 = .ok true) :
    ∃ d kind, w.discoveries[n]? = some d ∧ SourceKind.ofPath? p = some kind ∧
      (w.attach (d.descriptorOf kind p)).1 = .ok true ∧
        (w.acceptFile n p).2 = ((w.addSource (d.descriptorOf kind p)).2.setDiscovery n { d with
          discovered := d.discovered.insert (d.descriptorOf kind p).sourceId p }).remarkDiscovery
            ("Added token file: " ++ p.toString) := by
  have hout := h
  rw [outcome_acceptFile] at hout
  split at hout
  · next d kind hd hkind =>
    split at hout
    · cases hout
    · next hnew =>
      rcases hdefines : w.files.definesTokens p kind with why | - | -
      · rw [hdefines] at hout
        cases hout
      · rw [hdefines] at hout
        cases hout
      · rw [hdefines] at hout
        refine ⟨d, kind, hd, hkind, hout, ?_⟩
        rw [acceptFile_of_defines hd hkind hnew hdefines, outcome_addSource]
        exact if_pos hout
  · cases hout

/-- Looking at a file that is there ends. -/
lemma exists_acceptFile (hf : w.files.IsWellFormed) (hp : w.files.isFile p = .ok true) (n : ℕ) :
    ∃ b, (w.acceptFile n p).1 = .ok b := by
  rw [outcome_acceptFile]
  rcases w.discoveries[n]? with - | d
  · exact ⟨_, rfl⟩
  rcases SourceKind.ofPath? p with - | kind
  · exact ⟨_, rfl⟩
  dsimp only
  obtain ⟨defines, hdefines⟩ := FileTree.exists_definesTokens hp kind
  obtain ⟨valid, hvalid⟩ := Source.exists_isValid hf hp w.place d kind
  rw [hdefines, outcome_attach, hvalid]
  split
  · exact ⟨_, rfl⟩
  · cases defines with
    | false => exact ⟨_, rfl⟩
    | true =>
      dsimp only [Except.bind]
      split
      · split <;> exact ⟨_, rfl⟩
      · exact ⟨_, rfl⟩

/-! ### Growing -/

/-- A discovery has found more. -/
def HasFoundMore (d d' : Discovery) : Prop :=
  ∃ found, d' = { d with discovered := found } ∧
    ∀ id, d.discovered.contains id → found.contains id

/-- Files are looked at in the same way, sources stay attached, and what a discovery remembers stays
remembered. -/
structure Grown (n : ℕ) (w w' : Workspace) : Prop where
  files_eq : w'.files = w.files
  place_eq : w'.place = w.place
  sources : ∀ id, w.sources.contains id → w'.sources.contains id
  discovery : Option.Rel HasFoundMore w.discoveries[n]? w'.discoveries[n]?

/-- A discovery that has found more gives files the same descriptors. -/
lemma HasFoundMore.descriptorOf_eq {d d' : Discovery} (h : HasFoundMore d d') :
    d'.descriptorOf = d.descriptorOf := by
  obtain ⟨_, rfl, -⟩ := h
  rfl

/-- A discovery that has found more remembers what it has remembered. -/
lemma HasFoundMore.contains {d d' : Discovery} (h : HasFoundMore d d') (id : String)
    (hid : d.discovered.contains id) : d'.discovered.contains id := by
  obtain ⟨_, rfl, hfound⟩ := h
  exact hfound id hid

/-- A discovery has found what it has found. -/
lemma HasFoundMore.refl (d : Discovery) : HasFoundMore d d := ⟨_, rfl, fun _ => id⟩

/-- Having found more is transitive. -/
lemma HasFoundMore.trans {d d' d'' : Discovery} (h : HasFoundMore d d') (h' : HasFoundMore d' d'') :
    HasFoundMore d d'' := by
  obtain ⟨found, rfl, hfound⟩ := h
  obtain ⟨found', rfl, hfound'⟩ := h'
  exact ⟨found', rfl, fun id hid => hfound' id (hfound id hid)⟩

/-- A state on the same ground with the same sources has grown by nothing. -/
lemma Grown.of_sameGround (hground : w.SameGround w') (hsources : w'.sources = w.sources) (n : ℕ) :
    Grown n w w' where
  files_eq := hground.files_eq
  place_eq := hground.place_eq
  sources _ h := by rwa [hsources]
  discovery := by
    rw [hground.discoveries_eq]
    rcases w.discoveries[n]? with - | d
    · exact .none
    · exact .some (.refl d)

/-- Growing is transitive. -/
lemma Grown.trans {w'' : Workspace} (h : Grown n w w') (h' : Grown n w' w'') : Grown n w w'' where
  files_eq := h'.files_eq.trans h.files_eq
  place_eq := h'.place_eq.trans h.place_eq
  sources id hid := h'.sources id (h.sources id hid)
  discovery := by
    have hfirst := h.discovery
    have hsecond := h'.discovery
    generalize w.discoveries[n]? = before, w'.discoveries[n]? = between,
      w''.discoveries[n]? = after at hfirst hsecond
    cases hfirst with
    | none =>
      cases hsecond
      exact .none
    | some hmore =>
      cases hsecond with
      | some hmore' => exact .some (hmore.trans hmore')

/-- Entries in the journal let nothing go. -/
lemma Grown.of_remarked (h : w.Remarked w') (n : ℕ) : Grown n w w' :=
  .of_sameGround h.noted.sameGround h.sources_eq n

/-- An addition lets nothing go. -/
lemma grown_addSource (w : Workspace) (e : SourceDescriptor) (n : ℕ) :
    Grown n w (w.addSource e).2 where
  files_eq := (sameGround_addSource w e).files_eq
  place_eq := (sameGround_addSource w e).place_eq
  sources id hid := by
    have hsource : (w.addSource e).2.source? id ≠ none := by
      rw [source?_addSource, source?_attach]
      split
      · exact Option.some_ne_none _
      · rwa [ne_eq, source?_eq_none_iff, Bool.not_eq_false]
    rwa [ne_eq, source?_eq_none_iff, Bool.not_eq_false] at hsource
  discovery := by
    rw [(sameGround_addSource w e).discoveries_eq]
    exact (Grown.of_sameGround (.refl w) rfl n).discovery

/-- Looking at a file takes no source away, and forgets none. -/
lemma grown_acceptFile (w : Workspace) (n : ℕ) (p : Path) : Grown n w (w.acceptFile n p).2 := by
  by_cases h : (w.acceptFile n p).1 = .ok true
  · obtain ⟨d, kind, hd, -, -, heq⟩ := acceptFile_of_added h
    have hadded := grown_addSource w (d.descriptorOf kind p) n
    have hlt : n < w.discoveries.length := (List.getElem?_eq_some_iff.mp hd).1
    rw [heq]
    refine ⟨hadded.files_eq, hadded.place_eq, hadded.sources, ?_⟩
    rw [hd, remarkDiscovery, note, setDiscovery, (sameGround_addSource w _).discoveries_eq]
    dsimp only
    rw [List.getElem?_set_self hlt]
    refine .some ⟨_, rfl, fun id hid => ?_⟩
    rw [OrderedMap.contains, OrderedMap.get?_insert]
    split
    · rfl
    · exact hid
  · exact .of_remarked (remarked_acceptFile h) n

/-- Accepting files lets nothing go. -/
lemma grown_acceptEach (n : ℕ) (ps : List Path) (w : Workspace) :
    Grown n w (acceptEach n ps w).2 := by
  induction ps generalizing w with
  | nil => exact .of_sameGround (.refl w) rfl n
  | cons p ps ih =>
    have hstep := grown_acceptFile w n p
    rw [acceptEach]
    split
    · next heq => rwa [heq] at hstep
    · next heq =>
      rw [heq] at hstep
      exact hstep.trans (ih _)

/-! ### Passing over -/

/-- A file is passed over: looking at it adds no source. -/
def PassesOver (n : ℕ) (w : Workspace) (p : Path) : Prop :=
  (w.acceptFile n p).1 = .ok false

/-- A source that is not attached for a reason is not attached later, for that reason or because
there is one. -/
lemma Grown.attach_eq_false (h : Grown n w w') (hno : (w.attach e).1 = .ok false) :
    (w'.attach e).1 = .ok false := by
  rw [outcome_attach] at hno ⊢
  rw [h.files_eq, h.place_eq]
  split
  · rfl
  · next hnew =>
    rw [if_neg (mt (h.sources e.sourceId) hnew)] at hno
    exact hno

/-- A file that is passed over is passed over later. -/
lemma Grown.passesOver (h : Grown n w w') (hp : PassesOver n w p) : PassesOver n w' p := by
  rw [PassesOver, outcome_acceptFile] at hp ⊢
  have hdiscovery := h.discovery
  generalize w.discoveries[n]? = before, w'.discoveries[n]? = after,
    SourceKind.ofPath? p = kind? at hp hdiscovery ⊢
  cases hdiscovery with
  | none => rfl
  | some hmore =>
    rcases kind? with - | kind
    · rfl
    dsimp only at hp ⊢
    rw [hmore.descriptorOf_eq]
    split
    · rfl
    · next hnew =>
      rw [if_neg (mt (hmore.contains _) hnew)] at hp
      rw [h.files_eq]
      rcases hdefines : w.files.definesTokens p kind with why | - | -
      · rw [hdefines] at hp
        cases hp
      · rfl
      · rw [hdefines] at hp
        exact h.attach_eq_false hp

/-- What comes out of looking at a file depends on files, sources and discoveries. -/
lemma outcome_acceptFile_congr (hground : w.SameGround w') (hsources : w'.sources = w.sources)
    (n : ℕ) (p : Path) : (w'.acceptFile n p).1 = (w.acceptFile n p).1 := by
  rw [outcome_acceptFile, outcome_acceptFile, hground.discoveries_eq, hground.files_eq]
  simp only [outcome_attach, hsources, hground.files_eq, hground.place_eq]

/-- Once looking at a file has ended, the file is passed over. -/
lemma passesOver_again {b : Bool} (h : (w.acceptFile n p).1 = .ok b) :
    PassesOver n (w.acceptFile n p).2 p := by
  cases b with
  | false => exact (grown_acceptFile w n p).passesOver h
  | true =>
    obtain ⟨d, kind, hd, hkind, -, heq⟩ := acceptFile_of_added h
    have hlt : n < w.discoveries.length := (List.getElem?_eq_some_iff.mp hd).1
    have hafter : (w.acceptFile n p).2.discoveries[n]? = some { d with
        discovered := d.discovered.insert (d.descriptorOf kind p).sourceId p } := by
      rw [heq, remarkDiscovery, note, setDiscovery, (sameGround_addSource w _).discoveries_eq]
      exact List.getElem?_set_self hlt
    have hremembered : (d.discovered.insert (d.descriptorOf kind p).sourceId p).contains
        (d.descriptorOf kind p).sourceId := by
      rw [OrderedMap.contains, OrderedMap.get?_insert, if_pos rfl]
      rfl
    rw [PassesOver, acceptFile_of_remembered hafter hkind hremembered]

/-! ### Looking at files once more -/

/-- Accepting files ends at one that cannot be looked up. -/
lemma acceptEach_cons_of_error {why : PathFault} (h : (w.acceptFile n p).1 = .error why)
    (ps : List Path) : acceptEach n (p :: ps) w = (.error why, (w.acceptFile n p).2) := by
  rw [acceptEach]
  split
  · next heq =>
    rw [heq] at h ⊢
    cases h
    rfl
  · next heq =>
    rw [heq] at h
    cases h

/-- Files are accepted one after another, and those that were added are listed. -/
lemma acceptEach_cons_of_ok {added : Bool} (h : (w.acceptFile n p).1 = .ok added)
    (ps : List Path) :
    acceptEach n (p :: ps) w = ((acceptEach n ps (w.acceptFile n p).2).1.map
      fun rest => if added then p :: rest else rest, (acceptEach n ps (w.acceptFile n p).2).2) := by
  rw [acceptEach]
  split
  · next heq =>
    rw [heq] at h
    cases h
  · next heq =>
    rw [heq] at h ⊢
    cases h
    rfl

/-- Files that were looked at one after another are passed over the next time, up to the one that
cannot be looked up. -/
lemma acceptEach_again {v : Workspace} {ps : List Path}
    (hground : (acceptEach n ps w).2.SameGround v)
    (hsources : v.sources = (acceptEach n ps w).2.sources) :
    (acceptEach n ps v).1 = (acceptEach n ps w).1.map (fun _ => []) ∧
      v.Remarked (acceptEach n ps v).2 := by
  induction ps generalizing w v with
  | nil => exact ⟨rfl, _, rfl⟩
  | cons p ps ih =>
    rcases hfirst : (w.acceptFile n p).1 with why | added
    · -- The search stops at the same file again.
      rw [acceptEach_cons_of_error hfirst] at hground hsources ⊢
      have hstopped : w.Remarked (w.acceptFile n p).2 :=
        remarked_acceptFile (by rw [hfirst]; exact nofun)
      have hagain : (v.acceptFile n p).1 = .error why :=
        (outcome_acceptFile_congr (hstopped.noted.sameGround.trans hground)
          (hsources.trans hstopped.sources_eq) n p).trans hfirst
      rw [acceptEach_cons_of_error hagain]
      exact ⟨rfl, remarked_acceptFile (by rw [hagain]; exact nofun)⟩
    · rw [acceptEach_cons_of_ok hfirst] at hground hsources ⊢
      have hlater : Grown n (w.acceptFile n p).2 v :=
        (grown_acceptEach n ps _).trans (.of_sameGround hground hsources n)
      have hpassed : (v.acceptFile n p).1 = .ok false := hlater.passesOver (passesOver_again hfirst)
      have hremarked : v.Remarked (v.acceptFile n p).2 :=
        remarked_acceptFile (by rw [hpassed]; exact nofun)
      rw [acceptEach_cons_of_ok hpassed]
      obtain ⟨journal, hv⟩ := hremarked
      rw [hv]
      obtain ⟨hrest, journal', hv'⟩ := ih (w := (w.acceptFile n p).2) (v := { v with journal })
        (hground.trans ⟨rfl, rfl, rfl, rfl, rfl, rfl⟩) hsources
      refine ⟨?_, journal', hv'⟩
      rw [hrest]
      cases (acceptEach n ps (w.acceptFile n p).2).1 <;> rfl

/-- Accepting files that there are ends. -/
lemma exists_acceptEach (hf : w.files.IsWellFormed) {ps : List Path}
    (hps : ∀ p ∈ ps, w.files.isFile p = .ok true) (n : ℕ) :
    ∃ added, (acceptEach n ps w).1 = .ok added := by
  induction ps generalizing w with
  | nil => exact ⟨_, rfl⟩
  | cons p ps ih =>
    rw [List.forall_mem_cons] at hps
    obtain ⟨added, hadded⟩ := exists_acceptFile hf hps.1 n
    have hfiles := (grown_acceptFile w n p).files_eq
    rw [← hfiles] at hf hps
    obtain ⟨rest, hrest⟩ := ih hf hps.2
    rw [acceptEach_cons_of_ok hadded, hrest]
    exact ⟨_, rfl⟩

/-! ### Searching once more -/

/-- The files that a search lists. -/
def listed (w : Workspace) (n : ℕ) : Except Glob.Error (List Path) :=
  match w.discoveries[n]? with
  | none => .ok []
  | some d =>
      match w.files.isDirectory d.root with
      | .error why => .error (.badPath why)
      | .ok false => .ok []
      | .ok true => d.findFiles w.files

/-- A search lists files, and looks at them one after another. -/
lemma scan_eq (w : Workspace) (n : ℕ) :
    ∃ v, w.Remarked v ∧ w.scan n = match w.listed n with
      | .error e => (.error e, v)
      | .ok ps => ((acceptEach n ps v).1.mapError Glob.Error.badPath, (acceptEach n ps v).2) := by
  rw [scan, listed]
  rcases w.discoveries[n]? with - | d
  · exact ⟨w, ⟨_, rfl⟩, rfl⟩
  dsimp only
  rcases w.files.isDirectory d.root with why | - | -
  · exact ⟨w, ⟨_, rfl⟩, rfl⟩
  · exact ⟨_, ⟨_, rfl⟩, rfl⟩
  dsimp only
  rcases d.findFiles w.files with e | ps
  · exact ⟨w, ⟨_, rfl⟩, rfl⟩
  · exact ⟨_, ⟨_, rfl⟩, rfl⟩

/-- What is listed does not depend on what was found before. -/
lemma Grown.listed_eq (h : Grown n w w') : w'.listed n = w.listed n := by
  rw [listed, listed, h.files_eq]
  have hdiscovery := h.discovery
  generalize w.discoveries[n]? = before, w'.discoveries[n]? = after at hdiscovery ⊢
  cases hdiscovery with
  | none => rfl
  | @some d _ hmore =>
    obtain ⟨found, rfl, -⟩ := hmore
    dsimp only
    rw [Discovery.findFiles_congr found d.following]

/-- A search takes no source away, and forgets none. -/
lemma grown_scan (w : Workspace) (n : ℕ) : Grown n w (w.scan n).2 := by
  obtain ⟨v, hv, hscan⟩ := w.scan_eq n
  rw [hscan]
  split
  · exact .of_remarked hv n
  · next ps _ => exact (Grown.of_remarked hv n).trans (grown_acceptEach n ps v)

/-- A search of what a search has left adds nothing. -/
lemma scan_again {v : Workspace} (hground : (w.scan n).2.SameGround v)
    (hsources : v.sources = (w.scan n).2.sources) :
    (v.scan n).1 = (w.scan n).1.map (fun _ => []) ∧ v.Remarked (v.scan n).2 := by
  have hlisted : v.listed n = w.listed n :=
    ((grown_scan w n).trans (.of_sameGround hground hsources n)).listed_eq
  obtain ⟨w₁, hw₁, hfirst⟩ := w.scan_eq n
  obtain ⟨v₁, hv₁, hsecond⟩ := v.scan_eq n
  rw [hlisted] at hsecond
  rw [hfirst] at hground hsources
  rw [hfirst, hsecond]
  generalize w.listed n = files at hground hsources ⊢
  rcases files with e | ps
  · exact ⟨rfl, hv₁⟩
  · obtain ⟨houtcome, hremarked⟩ := acceptEach_again (hground.trans hv₁.noted.sameGround)
      (hv₁.sources_eq.trans hsources)
    refine ⟨?_, hv₁.trans hremarked⟩
    dsimp only
    rw [houtcome]
    cases (acceptEach n ps w₁).1 <;> rfl

/-- A search that can run ends. -/
lemma exists_scan (hd : w.discoveries[n]? = some d) {base : Place} (h : d.CanRun w.files base) :
    ∃ added, (w.scan n).1 = .ok added := by
  obtain ⟨ps, hps⟩ := h.exists_findFiles_eq_ok
  have hlisted : w.listed n = .ok ps := by
    have hentry : w.files.entry? (base ++ []) = some .directory := by
      rw [List.append_nil, h.search.directory]
    have hlook := h.search.look?_below hentry
    rw [Path.below_nil] at hlook
    rw [listed, hd]
    dsimp only
    rw [FileTree.isDirectory, hlook]
    exact hps
  obtain ⟨v, ⟨journal, rfl⟩, hscan⟩ := w.scan_eq n
  have hfiles := Discovery.isFile_of_mem_searchFrom (List.forall_mem_nil _) hps
  obtain ⟨added, hadded⟩ :=
    exists_acceptEach (w := { w with journal }) h.search.wellFormed hfiles n
  rw [hscan, hlisted]
  dsimp only
  rw [hadded]
  exact ⟨_, rfl⟩

/-- A second search, with nothing in between but listeners that come or go, adds no source.  It
leaves the files, the sources, the discovery, the records with their journal of changes and what
listeners were told as they are, and only adds to the journal.  It ends as the first one does; and
the first one ends, if the search can run. -/
theorem scan_again_adds_nothing (w : Workspace) (n : ℕ)
    (tokensChanged sourcesChanged : Signal Unit) :
    let first := w.scan n
    let before : Workspace := { first.2 with tokensChanged, sourcesChanged }
    let second := before.scan n
    second.1 = first.1.map (fun _ => []) ∧ (∃ journal, second.2 = { before with journal }) ∧
      ∀ d base, w.discoveries[n]? = some d → d.CanRun w.files base →
        ∃ added, first.1 = .ok added ∧ second.1 = .ok [] := by
  intro first before second
  obtain ⟨hagain, hremarked⟩ : second.1 = first.1.map (fun _ => []) ∧ before.Remarked second.2 :=
    scan_again ⟨rfl, rfl, rfl, rfl, rfl, rfl⟩ rfl
  refine ⟨hagain, hremarked, fun d base hd h => ?_⟩
  obtain ⟨added, hadded⟩ := exists_scan hd h
  exact ⟨added, hadded, hagain.trans (congrArg _ hadded)⟩

/-- A tree with two style sheets. -/
def twoSheets : FileTree :=
  (treeOf ":root \x7b --a: 1px; \x7d").write ["w".toList, "src".toList, "b.css".toList]
    (Utf8.encode ":root \x7b --b: 2px; \x7d".toList)

/-- A search for style sheets along patterns that overlap. -/
def overlappingSearch : Discovery :=
  .new (Path.ofString ".") ["*.css".toList, "src/\x7bb,*\x7d.css".toList] [] 100 50

/-- Where one of two style sheets is declared, the first search adds the other one and tells the
listener so, and the second search adds nothing and tells nobody. -/
theorem scan_again_of_declared_sheet :
    let declared : SourceDescriptor := ⟨.stylesheet, true, none, some "a.css", true⟩
    let w := ((newWith twoSheets .bundled true overlappingSearch).addSource declared).2.listen
    (w.scan 0).1 = .ok [Path.ofString "src/b.css"] ∧ (w.scan 0).2.notices.length = 2 ∧
      ((w.scan 0).2.scan 0).1 = .ok [] ∧ ((w.scan 0).2.scan 0).2.notices.length = 2 := by
  intro declared w
  have hsearch : w.files.CanSearch overlappingSearch.root ["w".toList] overlappingSearch.names :=
    { wellFormed := ⟨by decide +kernel, by decide +kernel, by decide +kernel⟩
      root_fit := by decide +kernel
      locate := by decide +kernel
      directory := by decide +kernel
      fit := by decide +kernel
      names := by decide +kernel }
  have hread : ∀ t ∈ overlappingSearch.patterns, ∃ q, Glob.Pattern.ofText t = .ok q := by
    have hall : ∀ t ∈ overlappingSearch.patterns, (Glob.Pattern.ofText t).isOk := by decide +kernel
    intro t ht
    have hok := hall t ht
    cases hq : Glob.Pattern.ofText t with
    | ok q => exact ⟨q, rfl⟩
    | error e =>
      rw [hq] at hok
      cases hok
  have hdiscovery : w.discoveries[0]? = some overlappingSearch :=
    congrArg (·[0]?) (sameGround_addSource _ declared).discoveries_eq
  have hadded : (w.scan 0).1 = .ok [Path.ofString "src/b.css"] := by decide +kernel
  have hnotices : (w.scan 0).2.notices.length = 2 := by decide +kernel
  clear_value w
  obtain ⟨-, ⟨journal, hsecond⟩, hruns⟩ := scan_again_adds_nothing w 0
    (w.scan 0).2.tokensChanged (w.scan 0).2.sourcesChanged
  obtain ⟨-, -, hnone⟩ := hruns overlappingSearch ["w".toList] hdiscovery ⟨hsearch, hread⟩
  refine ⟨hadded, hnotices, hnone, ?_⟩
  rw [← hnotices]
  exact congrArg (fun v => v.notices.length) hsecond

end Workspace

end DesignTokens
