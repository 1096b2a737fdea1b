import DesignTokens.Proofs.Catalogue.Trail
import DesignTokens.Proofs.Workspace.Restart
import DesignTokens.Session.Run

/-!
# Counting unknown references

A scan of files counts the references and how many of them are to unknown tokens.  It may be asked
to report the references to unknown tokens only.  Which ones these are is then looked up in the
audit trail, while they are counted by looking for a record of the name.

In every state of a workspace an active record is in the audit trail, so both look-ups agree.  This
holds of the catalogue without records and merges keep it, so it also holds of the workspace of a
session, in whatever way the opening of the session ended (`Session.holds_openWith`).  So both scans
count the same number of unknown references (`Session.active_registered_and_scans_agree`).
-/

namespace DesignTokens

/-! ### What merges keep, sessions keep -/

section Invariants

variable {P : Catalogue → Prop} (hempty : P .empty)
  (hmerge : ∀ c id rs, P c → P (c.merge id rs))

include hempty hmerge

namespace Workspace

variable {w : Workspace}

/-- What merges keep, the attaching of a file keeps. -/
lemma holds_acceptFile (hw : P w.catalogue) (n : Nat) (p : Path) :
    P (w.acceptFile n p).2.catalogue := by
  unfold acceptFile
  split
  · next d kind _ _ =>
    have hadded : P (w.addSource (d.descriptorOf kind p)).2.catalogue :=
      holds_operation hempty (fun _ => hmerge _ _ _) hw (.addSource (d.descriptorOf kind p))
    dsimp only
    split
    · exact hw
    · split
      · exact hw
      · exact hw
      · split
        · next v hv =>
          rw [hv] at hadded
          exact hadded
        · next outcome v _ hv =>
          rw [hv] at hadded
          exact hadded
  · exact hw

/-- What merges keep, the attaching of several files keeps. -/
lemma holds_acceptEach (n : Nat) (ps : List Path) (hw : P w.catalogue) :
    P (acceptEach n ps w).2.catalogue := by
  induction ps generalizing w with
  | nil => exact hw
  | cons p ps ih =>
    have hstep := holds_acceptFile hempty hmerge hw n p
    rw [acceptEach]
    split
    · next why v hv => rwa [hv] at hstep
    · next accepted v hv =>
      rw [hv] at hstep
      exact ih hstep

/-- What merges keep, a search keeps. -/
lemma holds_scan (hw : P w.catalogue) (n : Nat) : P (w.scan n).2.catalogue := by
  unfold scan
  split
  · exact hw
  · split
    · exact hw
    · exact hw
    · split
      · exact hw
      · exact holds_acceptEach hempty hmerge n _ hw

/-- What merges keep, a discovery that begins to follow its root keeps. -/
lemma holds_follow (hw : P w.catalogue) (n : Nat) : P (w.follow n).2.catalogue := by
  have hset : P (w.setFollowing n true).catalogue := by
    unfold setFollowing
    split <;> exact hw
  have hscan := holds_scan hempty hmerge hset n
  unfold follow
  split
  · next e v hv => rwa [hv] at hscan
  · next added v hv =>
    rw [hv] at hscan
    dsimp only
    unfold observeRoot
    split
    · exact hscan
    · split <;> exact hscan

end Workspace

namespace Session

open Workspace

/-- What merges keep, the search at the opening of a session keeps. -/
lemma holds_search {w : Workspace} (hw : P w.catalogue) (root : Path) (s : Settings)
    (watching : Bool) : P (search root s watching w).2.catalogue := by
  unfold search
  split
  · exact hw
  · have hready : P (w.addDiscovery (discoveryOf root s)).catalogue := hw
    cases watching with
    | true => exact holds_follow hempty hmerge hready 0
    | false => exact holds_scan hempty hmerge hready 0

/-- What holds of the catalogue without records and what merges keep, holds of the session, whether
or not it could be opened. -/
lemma holds_openWith (files : FileTree) (i : CommandLine.Invocation) (watching : Bool) :
    P (openWith files i watching).session.workspace.catalogue := by
  unfold openWith
  dsimp only
  split
  · exact hempty
  · next s _ =>
    have hnoted : P (noteSettings (settingsPath files i) s
        (.new files .bundled watching)).catalogue := by
      unfold noteSettings
      split <;> exact hempty
    have hstart := holds_populate hempty (fun _ => hmerge _ _ _) hnoted
      (s.resolvedSources (some (settingsPath files i).parent))
    split
    · next why w hw => rwa [hw] at hstart
    · next rs w hw =>
      rw [hw] at hstart
      have hsearch := holds_search hempty hmerge hstart (rootOf files i) s watching
      split
      · next v hv => rwa [hv] at hsearch
      · next e v hv => rwa [hv] at hsearch

end Session

end Invariants

/-! ### Counting -/

/-- The line with which a scan of files ends. -/
def Session.Tally.line (t : Session.Tally) : ConsoleLine :=
  .info (toString t.total ++ " references, " ++ toString t.unknown ++ " unknown")

namespace Session

variable {s : Session} {color : Bool} {files : FileTree} {i : CommandLine.Invocation}

/-- What is counted in files behind what was found before, or the message that ends the counting. -/
def counted (s : Session) (unknownOnly : Bool) (found : Tally) :
    List String → Except String Tally
  | [] => .ok found
  | file :: files =>
      let p := Path.ofString file
      match s.workspace.files.isFile p, Document.ofFile s.workspace.files p 1 with
      | .error why, _ => .error why.message
      | .ok false, _ => .error ("Not a file: " ++ p.toString)
      | .ok true, .error e => .error e.message
      | .ok true, .ok d =>
          if d.isSupported then
            counted s unknownOnly (found.add s (s.reportedHits unknownOnly d.hits)) files
          else counted s unknownOnly found files

/-- The last line of a scan and its code, for what was counted. -/
def ending (unknownOnly : Bool) : Except String Tally → ConsoleLine × Nat
  | .ok t => (t.line, if unknownOnly && t.unknown != 0 then 1 else 0)
  | .error message => (.error message, 1)

/-- What was said before a report stands before it, and does not change its code. -/
lemma closed_behind (r : Report) (lines : List ConsoleLine) :
    (r.behind lines).closed = (lines ++ r.closed.1, r.closed.2) := by
  obtain ⟨ls, ending⟩ := r
  cases ending with
  | ok code => rfl
  | error message => exact congrArg (·, 1) (List.append_assoc lines ls [.error message])

/-- A report ends with what was counted. -/
lemma exists_closed_reportFiles (unknownOnly : Bool) (found : Tally) (args : List String) :
    ∃ lines, (reportFiles color s unknownOnly found args).closed
      = (lines ++ [(ending unknownOnly (s.counted unknownOnly found args)).1],
        (ending unknownOnly (s.counted unknownOnly found args)).2) := by
  induction args generalizing found with
  | nil => exact ⟨[], rfl⟩
  | cons arg args ih =>
    have hbehind : ∀ (found : Tally) (front : List ConsoleLine),
        ∃ lines, ((reportFiles color s unknownOnly found args).behind front).closed
          = (lines ++ [(ending unknownOnly (s.counted unknownOnly found args)).1],
            (ending unknownOnly (s.counted unknownOnly found args)).2) := by
      intro found front
      obtain ⟨lines, hlines⟩ := ih found
      exact ⟨front ++ lines, by rw [closed_behind, hlines, List.append_assoc]⟩
    rw [reportFiles, counted]
    dsimp only
    cases s.workspace.files.isFile (Path.ofString arg) with
    | error why => exact ⟨[], rfl⟩
    | ok there =>
      cases there with
      | false => exact ⟨[], rfl⟩
      | true =>
        cases Document.ofFile s.workspace.files (Path.ofString arg) 1 with
        | error e => exact ⟨[], rfl⟩
        | ok d =>
          dsimp only
          cases d.isSupported with
          | true => exact hbehind _ _
          | false => exact hbehind _ _

/-- Where the two look-ups agree, the hits that are reported as unknown are those that are counted
as unknown. -/
lemma reportedHits_unknownOnly
    (hhas : ∀ name, s.registry.has name = true ↔ (s.registry.get? name none).isSome)
    (hits : List Hit) : s.reportedHits true hits = hits.filter s.isUnknown := by
  rw [reportedHits, if_pos rfl]
  refine List.filter_congr fun h _ => ?_
  have hname := Bool.eq_iff_iff.mpr (hhas (hitName h))
  rw [isUnknown, hname]
  cases s.registry.get? (hitName h) none <;> rfl

/-- A scan for unknown references counts the unknown ones among all. -/
lemma counted_unknownOnly
    (hhas : ∀ name, s.registry.has name = true ↔ (s.registry.get? name none).isSome)
    (found : Tally) (args : List String) :
    s.counted true ⟨found.unknown, found.unknown⟩ args
      = (s.counted false found args).map fun t => ⟨t.unknown, t.unknown⟩ := by
  induction args generalizing found with
  | nil => rfl
  | cons arg args ih =>
    have hadd : ∀ hits : List Hit,
        Tally.add s ⟨found.unknown, found.unknown⟩ (s.reportedHits true hits)
          = ⟨(found.add s (s.reportedHits false hits)).unknown,
            (found.add s (s.reportedHits false hits)).unknown⟩ := by
      intro hits
      rw [reportedHits_unknownOnly hhas, Tally.add, Tally.add, List.filter_filter]
      simp [reportedHits]
    rw [counted, counted]
    cases s.workspace.files.isFile (Path.ofString arg) with
    | error why => rfl
    | ok there =>
      cases there with
      | false => rfl
      | true =>
        cases Document.ofFile s.workspace.files (Path.ofString arg) 1 with
        | error e => rfl
        | ok d =>
          dsimp only
          cases d.isSupported with
          | false => exact ih found
          | true =>
            rw [if_pos rfl, if_pos rfl, hadd]
            exact ih _

/-! ### Runs -/

/-- What the opening of a session and a scan in it count, or the message that ends them. -/
def scanned (files : FileTree) (i : CommandLine.Invocation) (args : List String)
    (unknownOnly : Bool) : Except String Tally :=
  let opening := openWith files i false
  match opening.problem with
  | some message => .error message
  | none => opening.session.counted unknownOnly ⟨0, 0⟩ args

/-- A run ends with a line on the console and with a code. -/
def EndsWith (color : Bool) (o : Outcome) (last : ConsoleLine × Nat) : Prop :=
  o.code = last.2 ∧ ∃ lines, o.output = ConsoleLine.printed color (lines ++ [last.1])

/-- A run that scans ends with what was counted. -/
lemma endsWith_runCommand_scan (args : List String) (unknownOnly : Bool)
    (meanwhile : Workspace → Workspace) :
    EndsWith color (runCommand files color i (.scan args unknownOnly) meanwhile)
      (ending unknownOnly (scanned files i args unknownOnly)) := by
  unfold runCommand scanned
  dsimp only
  cases (openWith files i false).problem with
  | some message => exact ⟨rfl, (openWith files i false).lines, rfl⟩
  | none =>
    let opening := openWith files i false
    obtain ⟨lines, hlines⟩ : ∃ lines,
        (reportFiles color opening.session unknownOnly ⟨0, 0⟩ args).closed = (lines ++ _, _) :=
      exists_closed_reportFiles unknownOnly ⟨0, 0⟩ args
    refine ⟨congrArg Prod.snd hlines, opening.lines ++ lines, ?_⟩
    rw [List.append_assoc]
    exact congrArg (fun r => ConsoleLine.printed color (opening.lines ++ r.1)) hlines

/-- In every state that commands lead to from a workspace without records, every active record is in
the audit trail of its name, and a name was registered exactly if there is a record for it.  So a
scan of files ends with the same number of unknown references, or with the same error, whether it
reports all references or the unknown ones only. -/
theorem active_registered_and_scans_agree :
    (∀ (files : FileTree) (place : DatasetPlace) (watching : Bool) (cs : List Workspace.Command),
      let g := ((Workspace.new files place watching).afterCommands cs).registry
      (∀ t, ∀ r ∈ g.ofTheme t, r ∈ g.getAll r.name) ∧
        ∀ name, g.has name = true ↔ (g.get? name none).isSome) ∧
    ∀ (files : FileTree) (color : Bool) (i : CommandLine.Invocation) (args : List String)
      (meanwhile : Workspace → Workspace),
      let run (unknownOnly : Bool) := runCommand files color i (.scan args unknownOnly) meanwhile
      (∃ t : Tally, EndsWith color (run false) (t.line, 0) ∧
        EndsWith color (run true)
          (Tally.line ⟨t.unknown, t.unknown⟩, if t.unknown = 0 then 0 else 1)) ∨
      ∃ message, ∀ unknownOnly, EndsWith color (run unknownOnly) (.error message, 1) := by
  have hmerge : ∀ c id new, (∃ rs, Catalogue.Registered c rs) →
      ∃ rs, (c.merge id new).Registered rs :=
    fun _ id new ⟨rs, hrs⟩ => ⟨rs ++ new, hrs.merge id new⟩
  have hempty : ∃ rs, Catalogue.empty.Registered rs := ⟨[], Catalogue.registered_empty⟩
  refine ⟨fun files place watching cs => ?_, fun files color i args meanwhile => ?_⟩
  · obtain ⟨rs, hrs⟩ := Workspace.holds_afterCommands hempty hmerge files place watching cs
    refine ⟨fun t r hr => ?_, hrs.has_iff⟩
    obtain ⟨name, hactive⟩ := OrderedMap.mem_values_iff.mp hr
    obtain ⟨hmem, hname⟩ := hrs.mem_getAll hactive
    rw [hname]
    exact hmem
  · obtain ⟨rs, hrs⟩ := holds_openWith hempty hmerge files i false
    -- The tally asks for a record, the option for unknown references for a registered name.
    have hagree : scanned files i args true
        = (scanned files i args false).map fun t => ⟨t.unknown, t.unknown⟩ := by
      unfold scanned
      dsimp only
      split
      · rfl
      · exact counted_unknownOnly hrs.has_iff ⟨0, 0⟩ args
    intro run
    have hall : EndsWith color (run false) _ := endsWith_runCommand_scan args false meanwhile
    have hunknown : EndsWith color (run true) _ := endsWith_runCommand_scan args true meanwhile
    rw [hagree] at hunknown
    cases hscanned : scanned files i args false with
    | error message =>
      rw [hscanned] at hall hunknown
      exact Or.inr ⟨message, fun unknownOnly => by cases unknownOnly <;> assumption⟩
    | ok t =>
      rw [hscanned] at hall hunknown
      have hcode : ending true (.ok ⟨t.unknown, t.unknown⟩)
          = (Tally.line ⟨t.unknown, t.unknown⟩, if t.unknown = 0 then 0 else 1) := by
        by_cases hzero : t.unknown = 0 <;> simp [ending, hzero]
      refine Or.inl ⟨t, hall, ?_⟩
      rw [← hcode]
      exact hunknown

end Session

end DesignTokens
