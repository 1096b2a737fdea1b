import DesignTokens.Proofs.Catalogue.Repetition
import DesignTokens.Proofs.Source.Category
import DesignTokens.Proofs.Workspace.Restart
import DesignTokens.Proofs.Workspace.UpToDate

/-!
# Loading again what has not changed

Sources are loaded again for many reasons, and mostly their files still say what they said before.
A source may then give the records of its latest load, or fail and give none (`GivesAsBefore`).
In every state that a workspace can reach, loading everything again, or one source whose file is
said to have changed, then leaves all that can be read of the active records as it was, and adds to
the end of the audit trail (`reload_sameReads`).

The latest loads are told from the history of the workspace, in which commands report what they
load, and which sees the end of a workspace as no event: what was loaded stands until the next
reset.
-/

namespace DesignTokens

namespace Workspace

variable {w w' : Workspace} {h : List Event} {id : String} {ids : List String}
  {gave : String → Option (List TokenRecord)}

/-! ### Histories of commands -/

/-- What a command reports; giving up the sources resets and loads nothing. -/
def Command.events (w : Workspace) : Command → List Event
  | operate op => op.events w
  | dispose => []

/-- What a sequence of commands reports. -/
def commandHistory (w : Workspace) : List Command → List Event
  | [] => []
  | c :: cs => c.events w ++ commandHistory (c.apply w) cs

/-- Every command is tracked by what it reports. -/
lemma Tracks.command (hw : w.Tracks h) (c : Command) : (c.apply w).Tracks (h ++ c.events w) := by
  cases c with
  | operate op => exact hw.apply op
  | dispose =>
    have hfewer : { w with pending := w.pending.filter fun t => !Task.isChange t }.Tracks h :=
      hw.of_sameStore ⟨rfl, rfl⟩
    exact (List.append_nil h).symm ▸ hfewer.releaseAll.of_sameStore ⟨rfl, rfl⟩

/-- A sequence of commands is tracked by its history. -/
lemma Tracks.afterCommands (hw : w.Tracks h) (cs : List Command) :
    (w.afterCommands cs).Tracks (h ++ w.commandHistory cs) := by
  induction cs generalizing w h with
  | nil => exact (List.append_nil h).symm ▸ hw
  | cons c cs ih =>
    have hstep := ih (hw.command c)
    rwa [List.append_assoc] at hstep

/-! ### Catalogues of reachable states -/

/-- What a source gives when it is loaded is of the categories of its names. -/
lemma category_of_loadOf? {l : Load} (hl : w.loadOf? id = some l) :
    ∀ r ∈ l.records, r.category = Category.ofName r.name := by
  obtain ⟨s, rs, -, hrs, rfl⟩ := loadOf?_eq_some_iff.mp hl
  exact Source.category_of_load hrs

/-- In every reachable state a record is of the category of its name. -/
lemma named_afterCommands (files : FileTree) (place : DatasetPlace) (watching : Bool)
    (cs : List Command) : ((new files place watching).afterCommands cs).catalogue.Named :=
  holds_afterCommands_of_loads Catalogue.named_empty
    (fun hl hc => hc.merge _ (category_of_loadOf? hl)) files place watching cs

/-- In every reachable state what is active was registered. -/
lemma registered_afterCommands (files : FileTree) (place : DatasetPlace) (watching : Bool)
    (cs : List Command) :
    ∃ rs, ((new files place watching).afterCommands cs).catalogue.Registered rs :=
  holds_afterCommands (P := fun c => ∃ rs, c.Registered rs) ⟨[], Catalogue.registered_empty⟩
    (fun _ id new ⟨rs, hrs⟩ => ⟨rs ++ new, hrs.merge id new⟩) files place watching cs

/-- In a reachable state the records of the latest loads stand. -/
lemma standing_afterCommands (files : FileTree) (place : DatasetPlace) (watching : Bool)
    (cs : List Command) :
    ((new files place watching).afterCommands cs).catalogue.Standing fun id =>
      (latest? ((new files place watching).commandHistory cs) id).map Load.records where
  named := named_afterCommands files place watching cs
  reflects := ⟨_, ((tracks_new files place watching).afterCommands cs).reflects, fun _ => rfl⟩
  registered := registered_afterCommands files place watching cs

/-! ### Loading again -/

/-- An attached source that can be loaded now gives the records that it gave last. -/
def GivesAsBefore (w : Workspace) (gave : String → Option (List TokenRecord)) : Prop :=
  ∀ ⦃id s rs⦄, w.source? id = some s → s.load w.files = .ok rs → gave id = some rs

/-- Loading a source again leaves everything standing, and no read of active records tells. -/
lemma standing_stock {c : Catalogue} (hc : c.Standing gave)
    (hid : ∀ id s, w.source? id = some s → s.id = id) (hw : w.GivesAsBefore gave) (id : String) :
    (c.stock (w.loadOf? id)).Standing gave ∧
      c.registry.SameReads (c.stock (w.loadOf? id)).registry := by
  cases hl : w.loadOf? id with
  | none => exact ⟨hc, .refl _⟩
  | some l =>
    have hlid := id_of_loadOf? hl
    have hgave : gave l.id = some l.records := by
      obtain ⟨s, rs, hs, hrs, rfl⟩ := loadOf?_eq_some_iff.mp hl
      exact hw hs hrs
    exact hc.merge l hgave (precedence_of_loadOf? (hid id) hl) (category_of_loadOf? hl)

/-- So does loading several sources. -/
lemma sameReads_stockEach {c : Catalogue} (hc : c.Standing gave)
    (hid : ∀ id s, w.source? id = some s → s.id = id) (hw : w.GivesAsBefore gave)
    (ids : List String) : c.registry.SameReads (w.stockEach c ids).registry := by
  induction ids generalizing c with
  | nil => exact .refl _
  | cons id ids ih =>
    obtain ⟨hstanding, hreads⟩ := standing_stock hc hid hw id
    exact hreads.trans (ih hstanding)

/-- A loaded record is of the category of its name.  And in every state that commands can reach, if
each attached source gives nothing now, or the records of its latest load since the last reset, then
loading everything again, or a source whose file is said to have changed, leaves what is read of
active records as it was, and the audit trail longer at its end at most. -/
theorem reload_sameReads (files : FileTree) (place : DatasetPlace) (watching : Bool)
    (cs : List Command) :
    (∀ (s : Source) (f : FileTree) (rs : List TokenRecord), s.load f = .ok rs →
      ∀ r ∈ rs, r.category = Category.ofName r.name) ∧
    let w := (new files place watching).afterCommands cs
    let latest := latest? ((new files place watching).commandHistory cs)
    w.GivesAsBefore (fun id => (latest id).map Load.records) →
      w.registry.SameReads w.loadAll.2.registry ∧
        ∀ id, w.registry.SameReads (w.sourceChanged id).2.registry := by
  refine ⟨fun s f rs h => Source.category_of_load h, ?_⟩
  intro w latest hgives
  have htracks : w.Tracks ((new files place watching).commandHistory cs) :=
    (tracks_new files place watching).afterCommands cs
  have hid : ∀ id s, w.source? id = some s → s.id = id := by
    intro id s hs
    obtain ⟨a, ha, rfl⟩ := Option.map_eq_some_iff.mp hs
    exact htracks.source_id id a ha
  have hstanding := standing_afterCommands files place watching cs
  refine ⟨?_, fun id => ?_⟩
  · rw [registry, registry, catalogue_loadAll]
    exact sameReads_stockEach hstanding hid hgives _
  · rw [registry, registry, catalogue_sourceChanged]
    exact (standing_stock hstanding hid hgives id).2

/-- A tree with a theme configuration that has two keys for one name, and a style sheet that has the
name too. -/
def twoKeys : FileTree :=
  ((FileTree.start ["w".toList]).write ["w".toList, "a.css".toList]
    (Utf8.encode ":root \x7b --ant-foo-bar: 0; --b: 3; \x7d".toList)).write
      ["w".toList, "t.js".toList]
      (Utf8.encode "token: \x7b fooBar: '1', fooBAR: '2' \x7d".toList)

/-- A start with both files. -/
def twoKeysStart : List Command :=
  [.operate (.populate [unusedDataset, ⟨.stylesheet, true, none, some "/w/a.css", false⟩,
    ⟨.script, true, none, some "/w/t.js", false⟩])]

/-- Loading both files again goes through a state in which another record is active, and registers
four more records. -/
theorem reload_sameReads_two_keys :
    let w := (new twoKeys .bundled false).afterCommands twoKeysStart
    w.GivesAsBefore (fun id =>
        (latest? ((new twoKeys .bundled false).commandHistory twoKeysStart) id).map Load.records) ∧
      w.registry.SameReads w.loadAll.2.registry ∧
      w.registry.size = 4 ∧ w.loadAll.2.registry.size = 8 := by
  intro w
  have hgives : w.GivesAsBefore fun id =>
      (latest? ((new twoKeys .bundled false).commandHistory twoKeysStart) id).map Load.records := by
    have hall : ∀ e ∈ w.sourceSet, (e.2.load w.files).toOption = (latest?
        ((new twoKeys .bundled false).commandHistory twoKeysStart) e.1).map Load.records := by
      decide +kernel
    intro id s rs hs hrs
    rw [source?_eq_lookupEntry] at hs
    have hsame := hall (id, s) (OrderedMap.mem_of_lookupEntry hs)
    rw [hrs] at hsame
    exact hsame.symm
  exact ⟨hgives, ((reload_sameReads twoKeys .bundled false twoKeysStart).2 hgives).1,
    by decide +kernel, by decide +kernel⟩

end Workspace

end DesignTokens
