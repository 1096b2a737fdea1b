import DesignTokens.Proofs.Workspace.Observers
import Mathlib.Data.List.Infix

/-!
# Additions side by side

An addition of a source takes its turns: it checks that the source is new, joins the source once its
file has been looked up, and loads it.  While a file is looked up others have their turns, and
nothing is locked.  Here additions of sources with one identity, in any order of their turns, are
compared with additions one after another, of which one adds the source, and after which each
observer of a file belongs to an attached source.

They agree exactly if no two of the additions are on the way from the check to the joining at once,
with sources that are valid (`added_once_iff`).  What decides is the number of additions that have
joined or are on the way.  It never falls (`Additions.joined_add_underway_le_after`), and until two
are on the way it grows only while no source is there (`Additions.InTurn.turn`).
-/

namespace DesignTokens

namespace Source

variable {f : FileTree} {place : DatasetPlace} {e : SourceDescriptor}

/-- Is a file looked up before it is known whether the source can be used? -/
def looksUp (s : Source) : Bool :=
  s.descriptor.enabled &&
    match s.reader, s.path? with
    | .stylesheet, some _ => true
    | .script, some p => scriptSuffixes.contains p.suffix
    | _, _ => false

/-- A source that looks up a file has one. -/
lemma exists_filePath_of_looksUp (h : (ofDescriptor place e).looksUp) :
    e.kind ≠ .builtin ∧ ∃ file, e.filePath = some file := by
  rw [looksUp, path?_ofDescriptor, SourceDescriptor.path?] at h
  cases hkind : e.kind <;> cases hfile : e.filePath <;> simp_all [ofDescriptor]

/-- A source of a file is valid only once the file has been looked up. -/
lemma looksUp_of_isValid (hkind : e.kind ≠ .builtin)
    (h : (ofDescriptor place e).isValid f = .ok true) : (ofDescriptor place e).looksUp := by
  obtain ⟨file, hfile⟩ := exists_filePath_of_isValid hkind h
  have hpath : (ofDescriptor place e).path? = some (Path.ofString file) := by
    rw [path?_ofDescriptor, SourceDescriptor.path?, hfile, Option.map_some]
  have henabled : e.enabled = true := by
    have henabled := Workspace.enabled_of_isValid h
    rwa [descriptor_ofDescriptor] at henabled
  rw [isValid, descriptor_ofDescriptor, hpath, henabled] at h
  rw [looksUp, descriptor_ofDescriptor, hpath, henabled, Bool.true_and]
  rw [ofDescriptor] at h ⊢
  cases hkind' : e.kind with
  | builtin => exact absurd hkind' hkind
  | stylesheet => rfl
  | script =>
    by_contra hnot
    rw [hkind'] at h
    dsimp only at h hnot
    rw [if_neg hnot] at h
    cases h

end Source

namespace Workspace

/-! ### Turns -/

/-- How far an addition has come. -/
inductive Progress
  /-- It has not begun. -/
  | waiting
  /-- The source is new, and its file is being looked up. -/
  | checked
  /-- The source has joined, and is about to be loaded. -/
  | joined
  /-- It has ended. -/
  | ended (outcome : Except PathFault Bool)
  deriving DecidableEq

/-- An addition of a source. -/
structure Addition where
  /-- What declares the source. -/
  descriptor : SourceDescriptor
  /-- How far it has come. -/
  progress : Progress
  deriving DecidableEq

namespace Addition

/-- The source joins, if it is valid, and the listeners are told. -/
def join (a : Addition) (w : Workspace) : Addition × Workspace :=
  match w.attachChecked a.descriptor with
  | (.ok true, w) => ({ a with progress := .joined }, w.fireSources)
  | (outcome, w) => ({ a with progress := .ended outcome }, w)

/-- An addition has its turn: it goes on to where it lets others have theirs. -/
def advance (a : Addition) (w : Workspace) : Addition × Workspace :=
  match a.progress with
  | .waiting =>
      match w.checkNew a.descriptor with
      | (false, w) => ({ a with progress := .ended (.ok false) }, w)
      | (true, w) =>
          if (Source.ofDescriptor w.place a.descriptor).looksUp then
            ({ a with progress := .checked }, w)
          else a.join w
  | .checked => a.join w
  | .joined => ({ a with progress := .ended (.ok true) }, w.loadAdded a.descriptor.sourceId)
  | .ended _ => (a, w)

end Addition

/-- Additions side by side. -/
structure Additions where
  /-- The additions. -/
  all : List Addition
  /-- The workspace that they add to. -/
  workspace : Workspace

namespace Additions

/-- Additions that have not begun. -/
def begin (w : Workspace) (es : List SourceDescriptor) : Additions :=
  ⟨es.map fun e => ⟨e, .waiting⟩, w⟩

/-- One of the additions has its turn. -/
def turn (s : Additions) (i : ℕ) : Additions :=
  match s.all[i]? with
  | none => s
  | some a => ⟨s.all.set i (a.advance s.workspace).1, (a.advance s.workspace).2⟩

/-- The additions after turns, one after another. -/
def after (s : Additions) (order : List ℕ) : Additions :=
  order.foldl turn s

end Additions

variable {w : Workspace} {a : Addition} {e : SourceDescriptor} {id : String} {i : ℕ}
  {order : List ℕ} {s : Additions}

/-- A single addition has its turn. -/
lemma turn_singleton (a : Addition) (w : Workspace) :
    (Additions.mk [a] w).turn 0 = ⟨[(a.advance w).1], (a.advance w).2⟩ := rfl

/-- An addition that is alone takes three turns at most, and does what adding the source does. -/
lemma after_begin_singleton (w : Workspace) (e : SourceDescriptor) :
    (Additions.begin w [e]).after [0, 0, 0] =
      ⟨[⟨e, .ended (w.addSource e).1⟩], (w.addSource e).2⟩ := by
  show (((Additions.mk [⟨e, .waiting⟩] w).turn 0).turn 0).turn 0 = _
  rw [turn_singleton, turn_singleton, turn_singleton]
  cases hnew : w.checkNew e with
  | mk new v =>
    cases new with
    | false =>
      have hfirst : (Addition.mk e .waiting).advance w = (⟨e, .ended (.ok false)⟩, v) := by
        simp only [Addition.advance, hnew]
      have hadded : w.addSource e = (.ok false, v) := by simp only [addSource, attach, hnew]
      rw [hfirst, hadded]
      rfl
    | true =>
      -- From the joining on, one turn is left at most.
      have hrest : ∀ p, ((Addition.mk e p).join v).1.advance ((Addition.mk e p).join v).2 =
          (⟨e, .ended (w.addSource e).1⟩, (w.addSource e).2) := by
        intro p
        rw [Addition.join, addSource, attach, hnew]
        dsimp only
        cases v.attachChecked e with
        | mk outcome v => rcases outcome with why | - | - <;> rfl
      by_cases hlooks : (Source.ofDescriptor v.place e).looksUp
      · have hfirst : (Addition.mk e .waiting).advance w = (⟨e, .checked⟩, v) := by
          simp only [Addition.advance, hnew, if_pos hlooks]
        have hsecond : (Addition.mk e .checked).advance v = (Addition.mk e .checked).join v := rfl
        rw [hfirst, hsecond, hrest]
      · have hfirst : (Addition.mk e .waiting).advance w = (Addition.mk e .waiting).join v := by
          simp only [Addition.advance, hnew, if_neg hlooks]
        rw [hfirst, hrest]
        rfl

/-! ### What a turn does -/

/-- Is the source of a descriptor valid? -/
def accepts (w : Workspace) (e : SourceDescriptor) : Bool :=
  (Source.ofDescriptor w.place e).isValid w.files matches .ok true

/-- A descriptor is accepted if its source is found to be valid. -/
lemma accepts_iff : w.accepts e ↔ (Source.ofDescriptor w.place e).isValid w.files = .ok true := by
  rw [accepts]
  split <;> simp_all

namespace Addition

/-- Has the source joined? -/
def hasJoined (a : Addition) : Bool :=
  a.progress matches .joined | .ended (.ok true)

/-- Is the addition on the way from the check to the joining, with a valid source? -/
def isUnderway (a : Addition) (w : Workspace) : Bool :=
  a.progress matches .checked && w.accepts a.descriptor

/-- What a turn of an addition can do. -/
inductive Turned (a : Addition) (w : Workspace) : Addition × Workspace → Prop
  /-- The sources stay, and the addition has neither joined nor come to be on the way. -/
  | stays {r : Addition × Workspace} (hsame : w.SameStage r.2) (hground : w.SameGround r.2)
      (hdescriptor : r.1.descriptor = a.descriptor) (hjoined : r.1.hasJoined = a.hasJoined)
      (hunderway : r.1.isUnderway w = a.isUnderway w)
      (hlooks : r.1.progress = .checked → (Source.ofDescriptor w.place a.descriptor).looksUp)
      (htaken : a.progress = .waiting → w.accepts a.descriptor →
        (w.source? a.descriptor.sourceId).isSome) : Turned a w r
  /-- A valid source is new, and its file is to be looked up. -/
  | checks (hwaiting : a.progress = .waiting) (hvalid : w.accepts a.descriptor)
      (hnone : w.source? a.descriptor.sourceId = none)
      (hlooks : (Source.ofDescriptor w.place a.descriptor).looksUp) :
      Turned a w ({ a with progress := .checked }, w)
  /-- A valid source joins: it is new and looks up no file, or it was checked before. -/
  | joins (hvalid : w.accepts a.descriptor)
      (hfrom : a.progress = .checked ∨ a.progress = .waiting ∧
        w.source? a.descriptor.sourceId = none ∧
          ¬ (Source.ofDescriptor w.place a.descriptor).looksUp) :
      Turned a w ({ a with progress := .joined }, (w.attachChecked a.descriptor).2.fireSources)

end Addition

/-- Attaching behind the check comes out as the source is valid or not. -/
lemma outcome_attachChecked (w : Workspace) (e : SourceDescriptor) :
    (w.attachChecked e).1 = (Source.ofDescriptor w.place e).isValid w.files := by
  rw [attachChecked]
  dsimp only
  split
  · next h => exact h.symm
  · next h => exact h.symm
  · next h => exact h.symm

/-- A source that is not valid is noted at most. -/
lemma noted_attachChecked (h : ¬ w.accepts e) : w.Noted (w.attachChecked e).2 := by
  rw [attachChecked]
  dsimp only
  split
  · exact .refl w
  · next hvalid => exact absurd (accepts_iff.mpr hvalid) h
  · exact noted_remark _ _ _

/-- A source is new if there is none with its identity. -/
lemma checkNew_of_none (h : w.source? e.sourceId = none) : w.checkNew e = (true, w) := by
  rw [checkNew, if_neg (Bool.eq_false_iff.mp (source?_eq_none_iff.mp h))]

/-- Without a source of the identity, attaching is what is done behind the check. -/
lemma attach_of_none (h : w.source? e.sourceId = none) : w.attach e = w.attachChecked e := by
  rw [attach, checkNew_of_none h]

/-- Joining is a turn, behind the check or where no file is looked up. -/
lemma turned_join (hfrom : a.progress = .checked ∨ a.progress = .waiting ∧
    w.source? a.descriptor.sourceId = none ∧
      ¬ (Source.ofDescriptor w.place a.descriptor).looksUp) : a.Turned w (a.join w) := by
  have houtcome := w.outcome_attachChecked a.descriptor
  cases hjoin : w.attachChecked a.descriptor with
  | mk outcome v =>
    rw [hjoin] at houtcome
    by_cases hvalid : w.accepts a.descriptor
    · obtain rfl : outcome = .ok true := houtcome.trans (accepts_iff.mp hvalid)
      have hjoined := Addition.Turned.joins hvalid hfrom
      rw [hjoin] at hjoined
      rw [Addition.join, hjoin]
      exact hjoined
    · have hnot : outcome ≠ .ok true := fun h => hvalid (accepts_iff.mpr (houtcome.symm.trans h))
      have hended : a.join w = ({ a with progress := .ended outcome }, v) := by
        rw [Addition.join, hjoin]
        split
        · next heq =>
          cases heq
          exact absurd rfl hnot
        · next heq =>
          cases heq
          rfl
      have hnoted := noted_attachChecked hvalid
      rw [hjoin] at hnoted
      rw [hended]
      refine .stays hnoted.stocked.sameStage hnoted.sameGround rfl ?_ ?_ ?_ ?_
      · rcases outcome with why | - | -
        · rcases hfrom with h | ⟨h, -⟩ <;> simp [Addition.hasJoined, h]
        · rcases hfrom with h | ⟨h, -⟩ <;> simp [Addition.hasJoined, h]
        · exact absurd rfl hnot
      · simp [Addition.isUnderway, hvalid]
      · exact Progress.noConfusion
      · exact fun _ h => absurd h hvalid

/-- A turn of an addition leaves the sources alone, or is a check or a joining. -/
lemma turned_advance (a : Addition) (w : Workspace) : a.Turned w (a.advance w) := by
  cases hprogress : a.progress with
  | waiting =>
    cases hs : w.source? a.descriptor.sourceId with
    | none =>
      -- Only a source that looks its file up gives others a turn between check and joining.
      by_cases hlooks : (Source.ofDescriptor w.place a.descriptor).looksUp
      · have hadvance : a.advance w = ({ a with progress := .checked }, w) := by
          simp only [Addition.advance, hprogress, checkNew_of_none hs, if_pos hlooks]
        rw [hadvance]
        by_cases hvalid : w.accepts a.descriptor
        · exact .checks hprogress hvalid hs hlooks
        · refine .stays (.refl w) (.refl w) rfl ?_ ?_ (fun _ => hlooks) fun _ h => absurd h hvalid
          · simp [Addition.hasJoined, hprogress]
          · simp [Addition.isUnderway, hvalid]
      · have hadvance : a.advance w = a.join w := by
          simp only [Addition.advance, hprogress, checkNew_of_none hs, if_neg hlooks]
        rw [hadvance]
        exact turned_join (Or.inr ⟨hprogress, hs, hlooks⟩)
    | some source =>
      have hthere : w.sources.contains a.descriptor.sourceId := by
        by_contra hnot
        cases hs.symm.trans (source?_eq_none_iff.mpr (Bool.eq_false_iff.mpr hnot))
      have hadvance : a.advance w = ({ a with progress := .ended (.ok false) },
          w.remark .warning ("Source already exists: " ++ a.descriptor.sourceId)) := by
        simp only [Addition.advance, hprogress, checkNew, if_pos hthere]
      have hnoted := noted_remark w .warning ("Source already exists: " ++ a.descriptor.sourceId)
      rw [hadvance]
      refine .stays hnoted.stocked.sameStage hnoted.sameGround rfl ?_ ?_ Progress.noConfusion ?_
      · simp [Addition.hasJoined, hprogress]
      · simp [Addition.isUnderway, hprogress]
      · rw [hs]
        exact fun _ _ => rfl
  | checked =>
    have hadvance : a.advance w = a.join w := by rw [Addition.advance, hprogress]
    rw [hadvance]
    exact turned_join (Or.inl hprogress)
  | joined =>
    have hadvance : a.advance w = ({ a with progress := .ended (.ok true) },
        w.loadAdded a.descriptor.sourceId) := by
      rw [Addition.advance, hprogress]
    have hstocked := (stocked_loadSource w a.descriptor.sourceId).trans
      (noted_loadAdded w a.descriptor.sourceId).stocked
    rw [hadvance]
    refine .stays hstocked.sameStage hstocked.sameGround rfl ?_ ?_ Progress.noConfusion ?_
    · simp [Addition.hasJoined, hprogress]
    · simp [Addition.isUnderway, hprogress]
    · rw [hprogress]
      exact Progress.noConfusion
  | ended outcome =>
    have hadvance : a.advance w = (a, w) := by rw [Addition.advance, hprogress]
    rw [hadvance]
    refine .stays (.refl w) (.refl w) rfl rfl rfl ?_ ?_
    · rw [hprogress]
      exact Progress.noConfusion
    · rw [hprogress]
      exact Progress.noConfusion

/-- Attaching behind the check leaves the ground alone. -/
lemma sameGround_attachChecked (w : Workspace) (e : SourceDescriptor) :
    w.SameGround (w.attachChecked e).2 := by
  by_cases hvalid : w.accepts e
  · have hwatch := w.sameGround_watch (Source.ofDescriptor w.place e)
    rw [attachChecked]
    dsimp only
    rw [accepts_iff.mp hvalid]
    exact ⟨hwatch.files_eq, hwatch.place_eq, hwatch.watching_eq, hwatch.scheduled_eq,
      hwatch.pending_eq, hwatch.discoveries_eq⟩
  · exact (noted_attachChecked hvalid).sameGround

/-- A turn leaves the ground alone. -/
lemma Addition.Turned.sameGround {r : Addition × Workspace} (h : a.Turned w r) :
    w.SameGround r.2 := by
  cases h with
  | stays _ hground _ _ _ _ _ => exact hground
  | checks _ _ _ _ => exact .refl w
  | joins _ _ => exact (sameGround_attachChecked w _).trans (noted_fireSources _).sameGround

/-- A turn leaves the descriptor alone. -/
lemma Addition.Turned.descriptor_eq {r : Addition × Workspace} (h : a.Turned w r) :
    r.1.descriptor = a.descriptor := by
  cases h with
  | stays _ _ hdescriptor _ _ _ _ => exact hdescriptor
  | checks _ _ _ _ => rfl
  | joins _ _ => rfl

/-- An addition waits behind the check only where a file is looked up. -/
lemma Addition.Turned.looksUp {r : Addition × Workspace} (h : a.Turned w r)
    (hchecked : r.1.progress = .checked) : (Source.ofDescriptor w.place a.descriptor).looksUp := by
  cases h with
  | stays _ _ _ _ _ hlooks _ => exact hlooks hchecked
  | checks _ _ _ hlooks => exact hlooks
  | joins _ _ => cases hchecked

/-- What is accepted depends on the ground only. -/
lemma accepts_congr {w' : Workspace} (h : w.SameGround w') (e : SourceDescriptor) :
    w'.accepts e = w.accepts e := by
  rw [accepts, accepts, h.files_eq, h.place_eq]

/-- Whether an addition is on the way depends on the ground only. -/
lemma Addition.isUnderway_congr {w' : Workspace} (h : w.SameGround w') (a : Addition) :
    a.isUnderway w' = a.isUnderway w := by
  rw [isUnderway, isUnderway, accepts_congr h]

/-! ### Counting -/

namespace Additions

/-- How many additions have joined. -/
def joined (s : Additions) : ℕ :=
  s.all.countP Addition.hasJoined

/-- How many additions are on the way from the check to the joining, with valid sources. -/
def underway (s : Additions) : ℕ :=
  s.all.countP fun a => a.isUnderway s.workspace

/-- A turn of an addition that is not there does nothing. -/
lemma turn_of_none (h : s.all[i]? = none) : s.turn i = s := by
  rw [turn, h]

/-- A turn of an addition advances it. -/
lemma turn_of_some (ha : s.all[i]? = some a) :
    s.turn i = ⟨s.all.set i (a.advance s.workspace).1, (a.advance s.workspace).2⟩ := by
  rw [turn, ha]

/-- A turn of any addition leaves the ground alone. -/
lemma sameGround_turn (s : Additions) (i : ℕ) : s.workspace.SameGround (s.turn i).workspace := by
  cases ha : s.all[i]? with
  | none =>
    rw [turn_of_none ha]
    exact .refl _
  | some a =>
    rw [turn_of_some ha]
    exact (turned_advance a s.workspace).sameGround

/-- The count of those additions that have a property changes with the one that has its turn. -/
lemma countP_turn (p : Addition → Bool) (ha : s.all[i]? = some a) :
    (s.turn i).all.countP p + (if p a then 1 else 0) =
      s.all.countP p + if p (a.advance s.workspace).1 then 1 else 0 := by
  obtain ⟨hi, rfl⟩ := List.getElem?_eq_some_iff.mp ha
  have hle := List.boole_getElem_le_countP (p := p) hi
  rw [turn_of_some ha, List.countP_set hi]
  omega

/-- A turn changes the number of those on the way by the addition that has it. -/
lemma underway_turn (ha : s.all[i]? = some a) :
    (s.turn i).underway + (if a.isUnderway s.workspace then 1 else 0) =
      s.underway + if (a.advance s.workspace).1.isUnderway s.workspace then 1 else 0 := by
  have hcongr : (s.turn i).underway = (s.turn i).all.countP fun a => a.isUnderway s.workspace :=
    congrArg (List.countP · (s.turn i).all)
      (funext fun a => a.isUnderway_congr (s.sameGround_turn i))
  rw [hcongr]
  exact countP_turn (fun a => a.isUnderway s.workspace) ha

/-- What a turn of one of the additions does to the numbers and to the workspace. -/
inductive Counted (s : Additions) (a : Addition) (s' : Additions) : Prop
  /-- The sources and the numbers stay. -/
  | stays (hjoined : s'.joined = s.joined) (hunderway : s'.underway = s.underway)
      (hsame : s.workspace.SameStage s'.workspace)
      (htaken : a.progress = .waiting → s.workspace.accepts a.descriptor →
        (s.workspace.source? a.descriptor.sourceId).isSome)
  /-- One more is on the way; its source is not there. -/
  | checks (hjoined : s'.joined = s.joined) (hunderway : s'.underway = s.underway + 1)
      (hnone : s.workspace.source? a.descriptor.sourceId = none)
      (hworkspace : s'.workspace = s.workspace)
  /-- One more has joined; it was on the way, or its source was not there. -/
  | joins (hjoined : s'.joined = s.joined + 1)
      (hunderway : s'.underway + 1 = s.underway ∨ s'.underway = s.underway ∧
        s.workspace.source? a.descriptor.sourceId = none ∧
          ¬ (Source.ofDescriptor s.workspace.place a.descriptor).looksUp)
      (hvalid : s.workspace.accepts a.descriptor)
      (hworkspace : s'.workspace = (s.workspace.attachChecked a.descriptor).2.fireSources)

/-- What a turn does to the numbers goes with what it does to the workspace. -/
lemma counted_turn (ha : s.all[i]? = some a) : s.Counted a (s.turn i) := by
  have hjoined : (s.turn i).joined + _ = s.joined + _ := countP_turn Addition.hasJoined ha
  have hunderway := underway_turn ha
  have hworkspace : (s.turn i).workspace = (a.advance s.workspace).2 := by rw [turn_of_some ha]
  have hturned := turned_advance a s.workspace
  generalize a.advance s.workspace = r at hjoined hunderway hworkspace hturned
  cases hturned with
  | stays hsame _ _ hj hu _ htaken =>
    rw [hj] at hjoined
    rw [hu] at hunderway
    exact .stays (Nat.add_right_cancel hjoined) (Nat.add_right_cancel hunderway)
      (hworkspace ▸ hsame) htaken
  | checks hwaiting hvalid hnone _ =>
    simp only [Addition.hasJoined, Addition.isUnderway, hwaiting, hvalid] at hjoined hunderway
    exact .checks hjoined hunderway hnone hworkspace
  | joins hvalid hfrom =>
    rcases hfrom with hchecked | ⟨hwaiting, hnone, hlooks⟩
    · simp only [Addition.hasJoined, Addition.isUnderway, hchecked, hvalid] at hjoined hunderway
      exact .joins hjoined (Or.inl hunderway) hvalid hworkspace
    · simp only [Addition.hasJoined, Addition.isUnderway, hwaiting] at hjoined hunderway
      exact .joins hjoined (Or.inr ⟨hunderway, hnone, hlooks⟩) hvalid hworkspace

/-- The additions that have joined or are on the way do not become fewer. -/
lemma joined_add_underway_le_turn (s : Additions) (i : ℕ) :
    s.joined + s.underway ≤ (s.turn i).joined + (s.turn i).underway := by
  cases ha : s.all[i]? with
  | none => rw [turn_of_none ha]
  | some a =>
    cases counted_turn ha with
    | stays hjoined hunderway _ _ => omega
    | checks hjoined hunderway _ _ => omega
    | joins hjoined hunderway _ _ => omega

/-- The number of those that have joined or are on the way never falls. -/
lemma joined_add_underway_le_after (s : Additions) (order : List ℕ) :
    s.joined + s.underway ≤ (s.after order).joined + (s.after order).underway := by
  induction order generalizing s with
  | nil => exact Nat.le_refl _
  | cons i order ih => exact (s.joined_add_underway_le_turn i).trans (ih (s.turn i))

/-- Turns leave the ground alone. -/
lemma sameGround_after (s : Additions) (order : List ℕ) :
    s.workspace.SameGround (s.after order).workspace := by
  induction order generalizing s with
  | nil => exact .refl _
  | cons i order ih => exact (s.sameGround_turn i).trans (ih (s.turn i))

/-- Turns do not change what is added. -/
lemma descriptors_after (s : Additions) (order : List ℕ) :
    (s.after order).all.map Addition.descriptor = s.all.map Addition.descriptor := by
  induction order generalizing s with
  | nil => rfl
  | cons i order ih =>
    refine (ih (s.turn i)).trans ?_
    cases ha : s.all[i]? with
    | none => rw [turn_of_none ha]
    | some a =>
      obtain ⟨hi, rfl⟩ := List.getElem?_eq_some_iff.mp ha
      have hi' : i < (s.all.map Addition.descriptor).length := by rwa [List.length_map]
      rw [turn_of_some ha, List.map_set, (turned_advance _ s.workspace).descriptor_eq,
        ← List.getElem_map Addition.descriptor (h := hi'), List.set_getElem_self]

/-! ### In turn -/

/-- The additions are of sources with one identity. -/
structure Alike (s : Additions) (id : String) : Prop where
  /-- All sources have the identity. -/
  ids : ∀ a ∈ s.all, a.descriptor.sourceId = id
  /-- A file is looked up where an addition waits behind the check. -/
  looks : ∀ a ∈ s.all, a.progress = .checked →
    (Source.ofDescriptor s.workspace.place a.descriptor).looksUp

/-- After a turn the additions are those before it, and the one that had the turn. -/
lemma mem_turn {b : Addition} (ha : s.all[i]? = some a) (hb : b ∈ (s.turn i).all) :
    b = (a.advance s.workspace).1 ∨ b ∈ s.all := by
  rw [turn_of_some ha] at hb
  exact (List.mem_or_eq_of_mem_set hb).symm

/-- A turn keeps the identity of the sources. -/
lemma Alike.turn (hs : s.Alike id) (i : ℕ) : (s.turn i).Alike id := by
  cases ha : s.all[i]? with
  | none =>
    rw [turn_of_none ha]
    exact hs
  | some a =>
    have hmem := List.mem_of_getElem? ha
    have hturned := turned_advance a s.workspace
    refine ⟨fun b hb => ?_, fun b hb hchecked => ?_⟩
    · rcases mem_turn ha hb with rfl | hold
      · rw [hturned.descriptor_eq]
        exact hs.ids a hmem
      · exact hs.ids b hold
    · rw [(s.sameGround_turn i).place_eq]
      rcases mem_turn ha hb with rfl | hold
      · rw [hturned.descriptor_eq]
        exact hturned.looksUp hchecked
      · exact hs.looks b hold hchecked

/-- None is on the way where a source with the identity is valid and looks up no file. -/
lemma Alike.underway_eq_zero (hs : s.Alike id) (he : e.sourceId = id)
    (hvalid : s.workspace.accepts e)
    (hlooks : ¬ (Source.ofDescriptor s.workspace.place e).looksUp) : s.underway = 0 := by
  rw [underway, List.countP_eq_zero]
  intro a ha hunderway
  have hchecked : a.progress = .checked := by
    rw [Addition.isUnderway, Bool.and_eq_true] at hunderway
    revert hunderway
    cases a.progress <;> simp
  -- A source that looks up a file is of the file, and so is the other one.
  obtain ⟨hkind, file, hfile⟩ := Source.exists_filePath_of_looksUp (hs.looks a ha hchecked)
  obtain ⟨heq, -⟩ := SourceDescriptor.eq_of_sourceId_eq hkind hfile (he.trans (hs.ids a ha).symm)
  exact hlooks (Source.looksUp_of_isValid (heq ▸ hkind) (accepts_iff.mp hvalid))

/-- No two additions of valid sources have been on the way at once. -/
structure InTurn (s : Additions) (id : String) : Prop where
  /-- The additions are of sources with the identity. -/
  alike : s.Alike id
  /-- A source is there as soon as one has joined. -/
  there_iff : (s.workspace.source? id).isSome ↔ 0 < s.joined
  /-- One at most has joined, or is on the way. -/
  le_one : s.joined + s.underway ≤ 1
  /-- Once an addition of a valid source has begun, one has joined or is on the way. -/
  begun : ∀ a ∈ s.all, s.workspace.accepts a.descriptor → a.progress ≠ .waiting →
    0 < s.joined + s.underway

/-- As long as no source is there, none has joined. -/
lemma InTurn.joined_eq_zero (hs : s.InTurn id) (hnone : s.workspace.source? id = none) :
    s.joined = 0 := by
  by_contra hjoined
  have hthere := hs.there_iff.mpr (Nat.pos_of_ne_zero hjoined)
  rw [hnone] at hthere
  cases hthere

/-- Where one begins with a valid source, one has joined then or is on the way. -/
lemma InTurn.begun_turn (hs : s.InTurn id) (ha : s.all[i]? = some a)
    (hfirst : a.progress = .waiting → s.workspace.accepts a.descriptor →
      0 < (s.turn i).joined + (s.turn i).underway) :
    ∀ b ∈ (s.turn i).all, (s.turn i).workspace.accepts b.descriptor → b.progress ≠ .waiting →
      0 < (s.turn i).joined + (s.turn i).underway := by
  intro b hb hvalid hbegun
  have hcount := joined_add_underway_le_turn s i
  rw [accepts_congr (s.sameGround_turn i)] at hvalid
  rcases mem_turn ha hb with rfl | hold
  · rw [(turned_advance a s.workspace).descriptor_eq] at hvalid
    by_cases hwaiting : a.progress = .waiting
    · exact hfirst hwaiting hvalid
    · exact (hs.begun a (List.mem_of_getElem? ha) hvalid hwaiting).trans_le hcount
  · exact (hs.begun b hold hvalid hbegun).trans_le hcount

/-- As long as no two are on the way, the additions stay in turn, and the workspace moves. -/
lemma InTurn.turn (hs : s.InTurn id) (hle : (s.turn i).underway ≤ 1) :
    (s.turn i).InTurn id ∧ s.workspace.Moves (s.turn i).workspace := by
  cases ha : s.all[i]? with
  | none =>
    rw [turn_of_none ha]
    exact ⟨hs, .refl⟩
  | some a =>
    have hid := hs.alike.ids a (List.mem_of_getElem? ha)
    have hone := hs.le_one
    cases counted_turn ha with
    | stays hjoined hunderway hsame htaken =>
      refine ⟨⟨hs.alike.turn i, ?_, by omega, hs.begun_turn ha fun hwaiting hvalid => ?_⟩,
        hsame.moves (s.sameGround_turn i).files_eq⟩
      · rw [hsame.source?_eq, hjoined, hs.there_iff]
      · have hthere := hs.there_iff.mp (hid ▸ htaken hwaiting hvalid)
        omega
    | checks hjoined hunderway hnone hworkspace =>
      have hfree := hs.joined_eq_zero (hid ▸ hnone)
      refine ⟨⟨hs.alike.turn i, ?_, by omega, hs.begun_turn ha fun _ _ => by omega⟩,
        hworkspace ▸ .refl⟩
      rw [hworkspace, hjoined, hs.there_iff]
    | joins hjoined hunderway hvalid hworkspace =>
      -- None has joined before: it was this one that was on the way, or none was.
      have hfree : s.joined = 0 ∧ (s.turn i).underway = 0 := by
        rcases hunderway with hfrom | ⟨hstill, hnone, hlooks⟩
        · omega
        · exact ⟨hs.joined_eq_zero (hid ▸ hnone),
            hstill.trans (hs.alike.underway_eq_zero hid hvalid hlooks)⟩
      have hnone : s.workspace.source? a.descriptor.sourceId = none := by
        rw [hid]
        by_contra hsome
        have hthere := hs.there_iff.mp (Option.isSome_iff_ne_none.mpr hsome)
        omega
      have hattach := attach_of_none hnone
      have hadded : (s.workspace.attach a.descriptor).1 = .ok true := by
        rw [hattach, outcome_attachChecked, accepts_iff.mp hvalid]
      have hfired := noted_fireSources (s.workspace.attach a.descriptor).2
      rw [← hattach] at hworkspace
      refine ⟨⟨hs.alike.turn i, ?_, by omega, hs.begun_turn ha fun _ _ => by omega⟩, ?_⟩
      · refine iff_of_true ?_ (by omega)
        rw [hworkspace, hfired.stocked.sameStage.source?_eq, source?_attach,
          if_pos ⟨hadded, hid.symm⟩]
        rfl
      · rw [hworkspace]
        exact .trans (.single (.join hadded)) hfired.moves

/-- As long as at most one addition is on the way, the additions stay in turn, and the workspace
goes on by moves. -/
lemma InTurn.after (hs : s.InTurn id)
    (hle : ∀ part, part <+: order → (s.after part).underway ≤ 1) :
    (s.after order).InTurn id ∧ s.workspace.Moves (s.after order).workspace := by
  induction order generalizing s with
  | nil => exact ⟨hs, .refl⟩
  | cons i order ih =>
    obtain ⟨hturn, hmoves⟩ := hs.turn (i := i) (hle [i] ⟨order, rfl⟩)
    obtain ⟨hafter, hrest⟩ := ih hturn fun part hpart =>
      hle (i :: part) (List.cons_prefix_cons.mpr ⟨rfl, hpart⟩)
    exact ⟨hafter, hmoves.trans hrest⟩

/-- Additions that have not begun are in turn if no source is there. -/
lemma inTurn_begin {es : List SourceDescriptor} (hnew : w.source? id = none)
    (hes : ∀ e ∈ es, e.sourceId = id) : (begin w es).InTurn id := by
  have hwaiting : ∀ a ∈ (begin w es).all, a.progress = .waiting ∧ a.descriptor ∈ es := by
    intro a ha
    obtain ⟨e, he, rfl⟩ := List.mem_map.mp ha
    exact ⟨rfl, he⟩
  have hjoined : (begin w es).joined = 0 := by
    rw [joined, List.countP_eq_zero]
    intro a ha
    simp [Addition.hasJoined, (hwaiting a ha).1]
  have hunderway : (begin w es).underway = 0 := by
    rw [underway, List.countP_eq_zero]
    intro a ha
    simp [Addition.isUnderway, (hwaiting a ha).1]
  refine ⟨⟨fun a ha => hes _ (hwaiting a ha).2, fun a ha hchecked => ?_⟩, ?_, by omega,
    fun a ha _ hbegun => absurd (hwaiting a ha).1 hbegun⟩
  · cases (hwaiting a ha).1.symm.trans hchecked
  · have hsource : (begin w es).workspace.source? id = none := hnew
    rw [hjoined, hsource]
    decide

/-! ### Additions that have ended -/

/-- Have all additions ended? -/
def AllEnded (s : Additions) : Prop :=
  ∀ a ∈ s.all, ∃ outcome, a.progress = .ended outcome

/-- How many additions have ended with the source added. -/
def added (s : Additions) : ℕ :=
  s.all.countP fun a => a.progress = .ended (.ok true)

/-- When all additions have ended, none is on the way. -/
lemma AllEnded.underway_eq_zero (hs : s.AllEnded) : s.underway = 0 := by
  rw [underway, List.countP_eq_zero]
  intro a ha
  obtain ⟨outcome, hended⟩ := hs a ha
  simp [Addition.isUnderway, hended]

/-- When all additions have ended, those that have joined are those that have added the source. -/
lemma AllEnded.added_eq_joined (hs : s.AllEnded) : s.added = s.joined := by
  refine List.countP_congr fun a ha => ?_
  obtain ⟨outcome, hended⟩ := hs a ha
  rw [Addition.hasJoined, hended]
  rcases outcome with why | - | - <;> simp

end Additions

/-- Every observer of a file belongs to an attached source. -/
def ObserversBelong (w : Workspace) : Prop :=
  ∀ n, .file n ∈ w.hub.observers → ∃ id a, w.sources.get? id = some a ∧ a.watch = some n

open Additions in
/-- In any state that a run leads to, in which no source has the identity: of additions side by
side, in any order of their turns, one adds the source if one of them is of a valid source, and each
observer of a file belongs to an attached source all the while, exactly if no two additions of
valid sources are ever on the way from the check to the joining at once. -/
theorem added_once_iff (files : FileTree) (place : DatasetPlace) (watching : Bool) (d : Discovery)
    (run : List Happening) {w : Workspace} (hw : w = (newWith files place watching d).afterAll run)
    {es : List SourceDescriptor} (hnew : w.source? id = none) (hes : ∀ e ∈ es, e.sourceId = id)
    (hended : ((begin w es).after order).AllEnded) :
    (((∃ e ∈ es, w.accepts e) → ((begin w es).after order).added = 1) ∧
        ∀ part, part <+: order → ((begin w es).after part).workspace.ObserversBelong) ↔
      ∀ part, part <+: order → ((begin w es).after part).underway ≤ 1 := by
  have hdescriptors : ∀ part, ((begin w es).after part).all.map Addition.descriptor = es := by
    intro part
    rw [descriptors_after, begin, List.map_map]
    exact List.map_id es
  constructor
  · rintro ⟨honce, -⟩ part ⟨rest, rfl⟩
    by_contra hlt
    rw [not_le] at hlt
    -- Two are on the way, and the two are going to join.
    have hgrows := joined_add_underway_le_after ((begin w es).after part) rest
    have hafter : ((begin w es).after part).after rest = (begin w es).after (part ++ rest) :=
      (List.foldl_append ..).symm
    rw [hafter, hended.underway_eq_zero, ← hended.added_eq_joined] at hgrows
    obtain ⟨a, ha, hunderway⟩ := List.countP_pos_iff.mp (Nat.zero_lt_one.trans hlt)
    rw [Addition.isUnderway, Bool.and_eq_true, accepts_congr (sameGround_after _ part)] at hunderway
    have hmem : a.descriptor ∈ es := hdescriptors part ▸ List.mem_map_of_mem ha
    have hone := honce ⟨_, hmem, hunderway.2⟩
    omega
  · intro hle
    have hstart := inTurn_begin hnew hes
    have howned : w.Owned := hw ▸ ((agrees_newWith files place watching d).afterAll run).owned
    refine ⟨?_, fun part hpart n hn => ?_⟩
    · rintro ⟨e, he, hvalid⟩
      obtain ⟨hafter, -⟩ := hstart.after hle
      rw [← hdescriptors order] at he
      obtain ⟨a, ha, rfl⟩ := List.mem_map.mp he
      obtain ⟨outcome, houtcome⟩ := hended a ha
      have hpos := hafter.begun a ha ((accepts_congr (sameGround_after _ order) _).trans hvalid)
        (houtcome ▸ Progress.noConfusion)
      have hle := hafter.le_one
      rw [hended.underway_eq_zero, ← hended.added_eq_joined] at hpos hle
      omega
    · obtain ⟨-, hmoves⟩ := hstart.after fun part' hpart' => hle part' (hpart'.trans hpart)
      exact ((howned.moves hmoves).1.file_iff n).mp hn

/-! ### A style sheet that is added twice -/

/-- A workspace that watches files, with a style sheet among them. -/
def beforeAdditions : Workspace :=
  newWith (treeOf ":root \x7b --a: 1px; \x7d") .bundled true (.new (Path.ofString ".") [] [] 100 50)

open Additions in
/-- Where one addition ends before the other begins, the source is added once. -/
theorem added_one_after_another :
    ((begin beforeAdditions [watchedSheet, watchedSheet]).after [0, 0, 0, 1]).added = 1 ∧
      ((begin beforeAdditions [watchedSheet, watchedSheet]).after
        [0, 0, 0, 1]).workspace.ObserversBelong := by
  have hended : ((begin beforeAdditions [watchedSheet, watchedSheet]).after
      [0, 0, 0, 1]).AllEnded := by
    have hends : ((begin beforeAdditions [watchedSheet, watchedSheet]).after [0, 0, 0, 1]).all
        = [⟨watchedSheet, .ended (.ok true)⟩, ⟨watchedSheet, .ended (.ok false)⟩] := by
      decide +kernel
    intro a ha
    rw [hends] at ha
    rcases List.mem_pair.mp ha with rfl | rfl
    · exact ⟨_, rfl⟩
    · exact ⟨_, rfl⟩
  have hle : ∀ part ∈ [0, 0, 0, 1].inits,
      ((begin beforeAdditions [watchedSheet, watchedSheet]).after part).underway ≤ 1 := by
    decide +kernel
  have hvalid : beforeAdditions.accepts watchedSheet := by decide +kernel
  have hnew : beforeAdditions.source? watchedSheet.sourceId = none := by decide +kernel
  have hsame : ∀ e ∈ [watchedSheet, watchedSheet], e.sourceId = watchedSheet.sourceId := by simp
  obtain ⟨honce, hbelong⟩ := (added_once_iff _ .bundled true _ [] (w := beforeAdditions) rfl hnew
    hsame hended).mpr fun part hpart => hle part ((List.mem_inits part _).mpr hpart)
  exact ⟨honce ⟨_, List.mem_cons_self, hvalid⟩, hbelong _ (List.prefix_refl _)⟩

open Additions in
/-- Where both are on the way at once, both add the source, and the observer that the first one
started runs on behalf of no attached source. -/
theorem added_twice_side_by_side :
    let s := (begin beforeAdditions [watchedSheet, watchedSheet]).after [0, 1, 0, 1, 0, 1]
    beforeAdditions.source? watchedSheet.sourceId = none ∧
      s.all = [⟨watchedSheet, .ended (.ok true)⟩, ⟨watchedSheet, .ended (.ok true)⟩] ∧
        .file 0 ∈ s.workspace.hub.observers ∧ ¬ s.workspace.ObserversBelong := by
  intro s
  have hruns : .file 0 ∈ s.workspace.hub.observers := by decide +kernel
  have hwatches : s.workspace.sources.values.map Attachment.watch = [some 1] := by decide +kernel
  refine ⟨by decide +kernel, by decide +kernel, hruns, fun hbelong => ?_⟩
  obtain ⟨id, a, ha, hwatch⟩ := hbelong 0 hruns
  have hmem := List.mem_map_of_mem (OrderedMap.mem_values_iff.mpr ⟨id, ha⟩) (f := Attachment.watch)
  rw [hwatches, hwatch] at hmem
  cases List.mem_singleton.mp hmem

end Workspace

end DesignTokens
