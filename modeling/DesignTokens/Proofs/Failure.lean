import DesignTokens.File.Tree
import Mathlib.Data.List.Basic

/-!
# Ways to fail

A computation that can fail promises to fail in certain ways only.  For a sequence of computations
this is a promise of the first one, and of the next one after each result of the first.  A list of
computations keeps it if each of them does; where none of them has a failure that is allowed, this
says that all of them succeed (`failsOnly_mapM_iff`).

Reading a file fails in three ways: the file system does not take its path, the path cannot be
opened, or the content is no text (`FileTree.failsOnly_readText`).
-/

namespace DesignTokens

variable {ε ε' α β : Type} {P : ε → Prop} {x : Except ε α} {k : α → Except ε β} {as : List α}

/-- Every failure of a computation is one of those allowed. -/
def FailsOnly (P : ε → Prop) (x : Except ε α) : Prop :=
  ∀ e, x = .error e → P e

/-- A computation that gives a result breaks no promise. -/
@[simp] lemma failsOnly_ok (a : α) : FailsOnly P (.ok a) := by
  intro e h
  cases h

/-- A failure keeps the promise exactly if it is one of those allowed. -/
@[simp] lemma failsOnly_error {e : ε} : FailsOnly P (.error e : Except ε α) ↔ P e := by
  constructor
  · intro h
    exact h e rfl
  · rintro h _ ⟨⟩
    exact h

/-- A failure that is thrown keeps the promise exactly if it is one of those allowed. -/
@[simp] lemma failsOnly_throw {e : ε} : FailsOnly P (throw e : Except ε α) ↔ P e :=
  failsOnly_error

/-- A sequence keeps the promise if the first computation and the next after each of its results do.
-/
lemma failsOnly_bind :
    FailsOnly P (x >>= k) ↔ FailsOnly P x ∧ ∀ a, x = .ok a → FailsOnly P (k a) := by
  cases x with
  | error e =>
    have hbind : (.error e >>= k : Except ε β) = .error e := rfl
    rw [hbind, failsOnly_error, failsOnly_error]
    exact (and_iff_left nofun).symm
  | ok a =>
    have hbind : (.ok a >>= k : Except ε β) = k a := rfl
    rw [hbind]
    constructor
    · rintro h
      refine ⟨failsOnly_ok a, ?_⟩
      rintro _ ⟨⟩
      exact h
    · rintro ⟨-, h⟩
      exact h a rfl

/-- Failures that are reported as others have to be among the allowed ones as those others. -/
lemma failsOnly_mapError {g : ε' → ε} {y : Except ε' α} :
    FailsOnly P (y.mapError g) ↔ FailsOnly (fun e => P (g e)) y := by
  cases y with
  | error e => rw [Except.mapError, failsOnly_error, failsOnly_error]
  | ok a => exact iff_of_true (failsOnly_ok a) (failsOnly_ok a)

/-- Reporting failures as others leaves the results alone. -/
lemma mapError_eq_ok_iff {g : ε' → ε} {y : Except ε' α} {a : α} :
    y.mapError g = .ok a ↔ y = .ok a := by
  cases y with
  | error e => exact iff_of_false nofun nofun
  | ok b => rw [Except.mapError, Except.ok.injEq, Except.ok.injEq]

/-- Without a failure that is allowed, a computation succeeds. -/
lemma FailsOnly.exists_ok (h : FailsOnly P x) (hnever : FailsOnly (fun e => ¬ P e) x) :
    ∃ a, x = .ok a := by
  cases x with
  | error e => exact absurd (h e rfl) (hnever e rfl)
  | ok a => exact ⟨a, rfl⟩

/-- A list of computations keeps the promise that each of them keeps. -/
lemma FailsOnly.mapM (h : ∀ a ∈ as, FailsOnly P (k a)) : FailsOnly P (as.mapM k) := by
  induction as with
  | nil => exact failsOnly_ok []
  | cons a as ih =>
    rw [List.forall_mem_cons] at h
    rw [List.mapM_cons, failsOnly_bind]
    refine ⟨h.1, fun b _ => failsOnly_bind.mpr ⟨ih h.2, fun bs _ => failsOnly_ok _⟩⟩

/-- Where no failure is allowed, each computation of a list is met, as all before it succeed. -/
lemma failsOnly_mapM_iff (hnever : ∀ a ∈ as, FailsOnly (fun e => ¬ P e) (k a)) :
    FailsOnly P (as.mapM k) ↔ ∀ a ∈ as, FailsOnly P (k a) := by
  refine ⟨?_, FailsOnly.mapM⟩
  induction as with
  | nil => exact fun _ => List.forall_mem_nil _
  | cons a as ih =>
    rw [List.forall_mem_cons] at hnever ⊢
    rw [List.mapM_cons, failsOnly_bind]
    rintro ⟨hfirst, hrest⟩
    obtain ⟨b, hb⟩ := hfirst.exists_ok hnever.1
    exact ⟨hfirst, ih hnever.2 (failsOnly_bind.mp (hrest b hb)).1⟩

/-! ### Files -/

namespace FileTree

variable {f : FileTree} {p : Path} {P : ReadError → Prop}

/-- What the file system does not take is not read. -/
lemma read_of_fault {why : PathFault} (h : p.fault? = some why) :
    f.read p = .error (.unfit why) := by
  rw [read, h]

/-- A path that the file system takes can only fail to be opened. -/
lemma exists_of_read_error {e : ReadError} (hfit : p.fault? = none) (h : f.read p = .error e) :
    ∃ why, e = .unopened why p := by
  rw [read, hfit] at h
  dsimp only at h
  split at h
  · cases h
    exact ⟨_, rfl⟩
  · split at h
    · cases h
    · cases h
      exact ⟨_, rfl⟩
    · cases h
      exact ⟨_, rfl⟩

/-- If it is allowed that a path cannot be opened, only those remain that the file system does not
take. -/
lemma failsOnly_read (hopen : ∀ why, P (.unopened why p)) :
    FailsOnly P (f.read p) ↔ ∀ why, p.fault? = some why → P (.unfit why) := by
  constructor
  · intro h why hwhy
    exact h _ (read_of_fault hwhy)
  · intro h e he
    cases hfault : p.fault? with
    | some why =>
      rw [read_of_fault hfault] at he
      cases he
      exact h why hfault
    | none =>
      obtain ⟨why, rfl⟩ := exists_of_read_error hfault he
      exact hopen why

/-- A text is read unless its path is not taken or cannot be opened, or its content cannot be
decoded. -/
lemma failsOnly_readText (hopen : ∀ why, P (.unopened why p)) :
    FailsOnly P (f.readText p) ↔ (∀ why, p.fault? = some why → P (.unfit why)) ∧
      ∀ bytes, f.read p = .ok bytes → ∀ e, Utf8.decode bytes = .error e → P (.undecoded e) := by
  rw [readText, failsOnly_bind, failsOnly_read hopen]
  refine and_congr_right' (forall_congr' fun bytes => imp_congr_right fun _ => ?_)
  cases Utf8.decode bytes with
  | error e =>
    constructor
    · rintro h _ ⟨⟩
      exact h _ rfl
    · intro h
      exact failsOnly_error.mpr (h e rfl)
  | ok t => exact iff_of_true (failsOnly_ok _) nofun

/-- A path that the file system takes, with a text behind it if it can be opened. -/
def IsText (f : FileTree) (p : Path) : Prop :=
  p.fault? = none ∧ ∀ bytes, f.read p = .ok bytes → ∃ t, Utf8.decode bytes = .ok t

/-- What can be read exists. -/
lemma exists?_of_read {bytes : Bytes} (h : f.read p = .ok bytes) : f.exists? p = .ok true := by
  rw [read] at h
  rw [exists?, look?]
  cases hfault : p.fault? with
  | some why =>
    rw [hfault] at h
    cases h
  | none =>
    rw [hfault] at h
    cases hplace : f.locate p with
    | error e =>
      rw [hplace] at h
      cases h
    | ok place =>
      rw [hplace] at h
      dsimp only at h
      cases hentry : f.entry? place with
      | none =>
        rw [hentry] at h
        cases h
      | some entry =>
        simp only [hentry]
        rfl

/-- What exists has a path that the file system takes. -/
lemma fault?_of_exists (h : f.exists? p = .ok true) : p.fault? = none := by
  rw [← Option.not_isSome_iff_eq_none]
  intro hfault
  rw [exists?, look?, if_pos hfault] at h
  cases h

/-- What exists can at most not be opened. -/
lemma unopened_of_exists {e : ReadError} (hthere : f.exists? p = .ok true)
    (h : f.read p = .error e) : ∃ why, e = .unopened why p :=
  exists_of_read_error (fault?_of_exists hthere) h

/-- Only a path that is too long cannot be looked up. -/
lemma eq_of_exists_error {why : PathFault} (h : f.exists? p = .error why) : why = .overlong p := by
  rw [exists?, look?] at h
  split at h
  · cases h
  · split at h
    · cases h
    · cases h
      rfl
    · cases h

end FileTree

end DesignTokens
