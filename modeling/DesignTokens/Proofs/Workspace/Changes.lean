import DesignTokens.Proofs.Workspace.Watching

/-!
# No change of a watched file is lost

A workspace watches the files of its sources.  While operations are carried out, observers are told
about events, timers fire and work is done, in any order, files may change at any time, as long as
the watches on a file that changes are told about an event that names it later (`Attended`).  Then
each watched source is fresh, or a change of its file has been noticed, or an event that names the
file is still to come (`Heeds.step`).  Once no timer is live and no work is left, the candidates of
a source are the last records of what its file gives (`candidates_eq_of_attended`), whatever was
gathered, dropped or overtaken on the way.
-/

namespace DesignTokens

namespace Workspace

/-! ### Runs -/

/-- What can happen to a workspace that watches files. -/
inductive Step
  /-- An operation is carried out. -/
  | operate (op : Operation)
  /-- All observers are told about an event, and work is done in between. -/
  | deliver (e : FileEvent)
  /-- One observer is told about an event, and no work is done. -/
  | tell (e : FileEvent) (o : Observer)
  /-- A timer fires, live or not. -/
  | expire (timer : Nat)
  /-- The work that is about to begin is done. -/
  | tick
  /-- All work is done. -/
  | drain

/-- The state behind a step. -/
def Step.apply (w : Workspace) : Step → Workspace
  | operate op => op.apply w
  | deliver e => (w.deliver e).2
  | tell e o => (w.handle e o).toOption.getD w
  | expire timer => w.expire timer
  | tick => w.tick
  | drain => w.drain

/-- The state behind steps that happen one after another. -/
def afterSteps (w : Workspace) (steps : List Step) : Workspace :=
  steps.foldl Step.apply w

/-- The watch of a source is told about an event that changes its file. -/
def Step.Announces (w : Workspace) (id : String) (p : Path) : Step → Prop
  | deliver e => e.concerns w.files.workingDirectory p = .ok true ∧ (w.deliver e).1 = .ok ()
  | tell e o => w.Told e [o] id p
  | _ => False

/-- In one of the steps, the watch of a source is told about an event that changes its file. -/
def AnnouncedIn (id : String) (p : Path) : Workspace → List Step → Prop
  | _, [] => False
  | w, s :: steps => s.Announces w id p ∨ AnnouncedIn id p (s.apply w) steps

/-- A start is carried out, and where a watched file changes, something is to be done. -/
def Operation.IsAttended (w : Workspace) (owed : String → Path → Prop) : Operation → Prop
  | populate ds => ∃ results, (w.populate ds).1 = .ok results
  | setFiles files => ∀ id a p, w.sources.get? id = some a → a.source.watched? = some p →
      files.readText p ≠ w.files.readText p → owed id p
  | _ => True

/-- Each change of a watched file is announced later, and each start is carried out. -/
def Attended : Workspace → List Step → Prop
  | _, [] => True
  | w, .operate op :: steps =>
      op.IsAttended w (fun id p => AnnouncedIn id p (op.apply w) steps) ∧
        Attended (op.apply w) steps
  | w, s :: steps => Attended (s.apply w) steps

variable {w : Workspace} {steps : List Step} {owed : String → Path → Prop}

/-! ### What steps keep -/

/-- Every operation keeps watched sources heeded. -/
lemma Heeds.operate (h : w.Heeds owed) (hw : w.Posted) {op : Operation}
    (hop : op.IsAttended w owed) : (op.apply w).Posted ∧ (op.apply w).Heeds owed := by
  have hloads : ∀ ids : List String, w.Heeds fun id p => id ∈ ids ∨ owed id p :=
    fun ids => h.mono fun _ _ => Or.inr
  cases op with
  | populate ds =>
    obtain ⟨results, hresults⟩ := hop
    exact hw.populate (Prod.ext hresults rfl)
  | addSource d => exact h.addSource hw d
  | removeSource id => exact ⟨hw.removeSource id, h.removeSource hw id⟩
  | loadSource id =>
    exact (hloads [id]).of_stockEach hw (stocked_loadSource w id) (catalogue_loadSource w id)
  | loadAll => exact (hloads _).of_stockEach hw (stocked_loadAll w) (catalogue_loadAll w)
  | reload =>
    exact hw.of_stockEach Catalogue.keyed_empty (stocked_reload w) (catalogue_reload w)
  | sourceChanged id =>
    exact (hloads [id]).of_stockEach hw (stocked_sourceChanged w id) (catalogue_sourceChanged w id)
  | listen => exact ⟨hw.of_eq rfl rfl rfl rfl hw.keyed, h⟩
  | setFiles files => exact ⟨hw.of_eq rfl rfl rfl rfl hw.keyed, h.setFiles hop⟩

/-- What is owed to the sources whose files an event names is made up for by its delivery. -/
lemma Heeds.deliver (hw : w.Posted) {e : FileEvent}
    (h : w.Heeds fun id p => (Step.deliver e).Announces w id p ∨ owed id p) :
    (w.deliver e).2.Posted ∧ (w.deliver e).2.Heeds owed := by
  refine Heeds.deliverTo hw fun id a p ha hp => (h ha hp).imp_right (Or.imp_right ?_)
  refine Or.imp_left fun ⟨hconcerns, hok⟩ => ⟨hok, hconcerns, ?_⟩
  obtain ⟨n, hn, -, hobserver⟩ := hw.watched ha p hp
  exact ⟨a, n, ha, hn, hobserver⟩

/-- Telling an observer about an event settles what was owed to its source until then. -/
lemma Heeds.tell (hw : w.Posted) {e : FileEvent} {o : Observer}
    (h : w.Heeds fun id p => w.Told e [o] id p ∨ owed id p) :
    ((Step.tell e o).apply w).Posted ∧ ((Step.tell e o).apply w).Heeds owed := by
  rw [Step.apply]
  cases hhandle : w.handle e o with
  | error why =>
    refine ⟨hw, fun id a p ha hp => (h ha hp).imp_right (Or.imp_right ?_)⟩
    exact (Or.resolve_left · (not_told_of_error hw hhandle ha hp))
  | ok v =>
    obtain ⟨hposted, hheeds, -⟩ := Heeds.handle hw h hhandle
    exact ⟨hposted, hheeds⟩

/-- Each step keeps watched sources heeded, if an event is still to come wherever one is owed. -/
lemma Heeds.step {s : Step} (hw : w.Posted)
    (h : w.Heeds fun id p => AnnouncedIn id p w (s :: steps))
    (hattended : w.Attended (s :: steps)) :
    (s.apply w).Posted ∧ ((s.apply w).Heeds fun id p => AnnouncedIn id p (s.apply w) steps) ∧
      (s.apply w).Attended steps := by
  cases s with
  | operate op =>
    have hlater := h.mono fun id p => (Or.resolve_left · not_false)
    obtain ⟨hposted, hheeds⟩ := hlater.operate hw hattended.1
    exact ⟨hposted, hheeds, hattended.2⟩
  | deliver e =>
    obtain ⟨hposted, hheeds⟩ := Heeds.deliver hw h
    exact ⟨hposted, hheeds, hattended⟩
  | tell e o =>
    obtain ⟨hposted, hheeds⟩ := Heeds.tell hw h
    exact ⟨hposted, hheeds, hattended⟩
  | expire timer =>
    obtain ⟨hposted, hheeds⟩ := (h.mono fun id p => (Or.resolve_left · not_false)).expire hw timer
    exact ⟨hposted, hheeds, hattended⟩
  | tick =>
    obtain ⟨hposted, hheeds⟩ := (h.mono fun id p => (Or.resolve_left · not_false)).tick hw
    exact ⟨hposted, hheeds, hattended⟩
  | drain =>
    obtain ⟨hposted, hheeds, -⟩ := (h.mono fun id p => (Or.resolve_left · not_false)).drain hw
    exact ⟨hposted, hheeds, hattended⟩

/-- At the end of a run, a change of each watched file that is not fresh has been noticed. -/
lemma heeds_afterSteps (hw : w.Posted) (h : w.Heeds fun id p => AnnouncedIn id p w steps)
    (hattended : w.Attended steps) :
    (w.afterSteps steps).Posted ∧ (w.afterSteps steps).Heeds fun _ _ => False := by
  induction steps generalizing w with
  | nil => exact ⟨hw, h⟩
  | cons s steps ih =>
    obtain ⟨hposted, hheeds, hlater⟩ := Heeds.step hw h hattended
    exact ih hposted hheeds hlater

/-- A new workspace watches nothing and has nothing to do. -/
lemma posted_new (files : FileTree) (place : DatasetPlace) : (new files place true).Posted where
  watching_eq := rfl
  discoveries_eq := rfl
  timed := Hub.isTimed_empty
  keyed := Catalogue.keyed_empty
  enabled := fun ha => nomatch ha
  watched := fun ha => nomatch ha

/-- Nothing is noticed any more once no timer is live and no work is left. -/
lemma not_noticed (hw : w.Posted) (hlive : w.hub.timers.live = [])
    (hwork : w.pending ++ w.scheduled = []) (id : String) (a : Attachment) : ¬ w.Noticed id a := by
  rintro (⟨n, -, hne⟩ | htask)
  · exact hne (hw.timed.gathered_eq_nil hlive n)
  · rw [hwork] at htask
    cases htask

/-- Where the watches on a file are told about each of its changes, once no timer is live and no
work is left, the candidates of a watched source are the last records of what it gives now, if it
gives anything. -/
theorem candidates_eq_of_attended (files : FileTree) (place : DatasetPlace) (steps : List Step)
    (hattended : (new files place true).Attended steps) {w : Workspace}
    (hw : w = (new files place true).afterSteps steps) (hlive : w.hub.timers.live = [])
    (hwork : w.pending ++ w.scheduled = []) {id : String} {a : Attachment} {p : Path}
    {rs : List TokenRecord} (ha : w.sources.get? id = some a) (hp : a.source.watched? = some p)
    (hrs : a.source.load w.files = .ok rs) (key : TokenKey) :
    (w.catalogue.candidatesOf key).get? id = TokenRecord.lastFor? key rs := by
  have hnew : (new files place true).Heeds fun id p =>
      AnnouncedIn id p (new files place true) steps :=
    fun _ _ _ ha _ => nomatch ha
  obtain ⟨hposted, hheeds⟩ := heeds_afterSteps (posted_new files place) hnew hattended
  rw [← hw] at hposted hheeds
  have hfresh : w.Fresh id := by
    rcases hheeds ha hp with hfresh | hnoticed | howed
    · exact hfresh
    · exact absurd hnoticed (not_noticed hposted hlive hwork id a)
    · exact howed.elim
  have hload : w.loadOf? id = some ⟨id, a.source.priority, rs⟩ :=
    loadOf?_eq_some_iff.mpr ⟨a.source, rs, by rw [source?, ha, Option.map_some], hrs, rfl⟩
  exact hfresh _ hload key

/-! ### A file that is replaced -/

/-- A tree with one style sheet. -/
def treeOf (style : String) : FileTree :=
  (FileTree.start ["w".toList]).write ["w".toList, "a.css".toList] (Utf8.encode style.toList)

/-- The style sheet as a source that is watched. -/
def watchedSheet : SourceDescriptor :=
  ⟨.stylesheet, true, none, some "/w/a.css", true⟩

/-- The style sheet is written, and replaced by another file while it is about to be loaded. -/
def replacement : List Step :=
  [.operate (.addSource watchedSheet),
    .operate (.setFiles (treeOf ":root \x7b --a: 2px; --b: 2px; \x7d")),
    .deliver ⟨.modified, Path.ofString "/w/a.css", none, false⟩,
    .expire 0,
    .operate (.setFiles (treeOf ":root \x7b --a: 3px; \x7d")),
    .tell ⟨.moved, Path.ofString "/w/new.css", some (Path.ofString "/w/a.css"), false⟩ (.file 0),
    .tick, .expire 1, .drain]

/-- Only what the file that took the place gives is left of the style sheet. -/
theorem candidates_of_replacement :
    let w := (new (treeOf ":root \x7b --a: 1px; \x7d") .bundled true).afterSteps replacement
    ∃ rs, (Source.ofDescriptor .bundled watchedSheet).load w.files = .ok rs ∧ ∀ key,
      (w.catalogue.candidatesOf key).get? "stylesheet:/w/a.css" = TokenRecord.lastFor? key rs := by
  intro w
  have honly : ∀ {w : Workspace}, w.sources.entries =
        [("stylesheet:/w/a.css", ⟨Source.ofDescriptor .bundled watchedSheet, some 0⟩)] →
      ∀ {id a p}, w.sources.get? id = some a → a.source.watched? = some p →
        a.watch = some 0 ∧ p = Path.ofString "/w/a.css" := by
    intro w hw id a p ha hp
    have hmem := OrderedMap.mem_entries_iff.mpr ha
    rw [hw, List.mem_singleton] at hmem
    cases hmem
    exact ⟨rfl, (Option.some.inj hp).symm⟩
  have hattended :
      (new (treeOf ":root \x7b --a: 1px; \x7d") .bundled true).Attended replacement := by
    refine ⟨trivial, fun id a p ha hp _ => ?_, fun id a p ha hp _ => ?_, trivial⟩
    · obtain ⟨-, rfl⟩ := honly (by decide +kernel) ha hp
      exact Or.inl ⟨by decide +kernel, by decide +kernel⟩
    · obtain ⟨hwatch, rfl⟩ := honly (by decide +kernel) ha hp
      exact Or.inl ⟨by decide +kernel, a, 0, ha, hwatch, List.mem_singleton.mpr rfl⟩
  cases hload : (Source.ofDescriptor .bundled watchedSheet).load w.files with
  | error why =>
    have hok : ((Source.ofDescriptor .bundled watchedSheet).load w.files).isOk = true := by
      decide +kernel
    rw [hload] at hok
    cases hok
  | ok rs =>
    have hthere : w.sources.get? "stylesheet:/w/a.css"
        = some ⟨Source.ofDescriptor .bundled watchedSheet, some 0⟩ := by decide +kernel
    exact ⟨rs, rfl, candidates_eq_of_attended _ .bundled replacement hattended rfl
      (by decide +kernel) (by decide +kernel) hthere rfl hload⟩

end Workspace

end DesignTokens
