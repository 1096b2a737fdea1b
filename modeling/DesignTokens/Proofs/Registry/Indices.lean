import DesignTokens.Proofs.History
import DesignTokens.Proofs.OrderedMap
import DesignTokens.Registry.Basic

/-!
# The indices of the registry agree

The registry keeps a theme index, a category index and an audit trail, and remembers the list of
names.  They are updated by different operations: activation changes the first two, and has to
find the bucket of the record that it displaces; registration changes the trail and forgets the
list of names.

Two invariants carry the result.  `Consistent` ties the category index to the theme index, and
`Trail` ties the audit trail and the remembered names to the records that were registered.  Each
operation has one lemma for each of them, and `indices_agree` puts them together for every run.
-/

namespace DesignTokens

namespace TokenRecord

variable {key : TokenKey} {rs : List TokenRecord} {r : TokenRecord}

/-- The last record of a list that is for a key. -/
def lastFor? (key : TokenKey) (rs : List TokenRecord) : Option TokenRecord :=
  (rs.filter fun r => r.key = key).getLast?

/-- Without records there is no last one for a key. -/
@[simp] lemma lastFor?_nil : lastFor? key [] = none := rfl

/-- One more record is the last one for its key. -/
lemma lastFor?_concat :
    lastFor? key (rs ++ [r]) = if r.key = key then some r else lastFor? key rs := by
  rw [lastFor?, List.filter_append]
  by_cases h : r.key = key <;> simp [h, lastFor?]

/-- The last record for a key is one of the records and is for the key. -/
lemma mem_of_lastFor? (h : lastFor? key rs = some r) : r ∈ rs ∧ r.key = key := by
  have hmem := List.mem_of_getLast? h
  rwa [List.mem_filter, decide_eq_true_eq] at hmem

/-- There is a last record for a key unless no record is for it. -/
lemma lastFor?_eq_none_iff : lastFor? key rs = none ↔ ∀ r ∈ rs, r.key ≠ key := by
  rw [lastFor?, List.getLast?_eq_none_iff, List.filter_eq_nil_iff]
  simp only [decide_eq_true_eq]

/-- There is a last record for a key if there is any. -/
lemma exists_lastFor? (h : ∃ r ∈ rs, r.key = key) : ∃ r, lastFor? key rs = some r := by
  rw [← Option.ne_none_iff_exists']
  intro hnone
  obtain ⟨r, hr, hkey⟩ := h
  exact lastFor?_eq_none_iff.mp hnone r hr hkey

end TokenRecord

namespace Registry

variable {g : Registry} {r s : TokenRecord} {rs : List TokenRecord} {name n : String}
  {theme t : Theme} {c : Category} {key : TokenKey}

/-! ### The parts of a state -/

/-- The bucket of a category is no part of the theme index. -/
@[simp] lemma activeRecord?_setBucket (m : OrderedMap TokenKey TokenRecord) :
    (g.setBucket c m).activeRecord? name t = g.activeRecord? name t := by
  cases t <;> rfl

/-- Setting the active records of a theme changes the look-ups under this theme only. -/
@[simp] lemma activeRecord?_setActive (m : OrderedMap String TokenRecord) :
    (g.setActive theme m).activeRecord? name t
      = if t = theme then m.get? name else g.activeRecord? name t := by
  cases theme <;> cases t <;> rfl

/-- The active records of a theme are no part of the category index. -/
@[simp] lemma bucket_setActive (m : OrderedMap String TokenRecord) :
    (g.setActive theme m).bucket c = g.bucket c := by
  cases theme <;> rfl

/-- Setting the bucket of a category changes this bucket only. -/
@[simp] lemma bucket_setBucket (d : Category) (m : OrderedMap TokenKey TokenRecord) :
    (g.setBucket d m).bucket c = if d = c then m else g.bucket c := by
  rw [bucket, setBucket, OrderedMap.get?_insert]
  split <;> rfl

/-- Setting a bucket changes the active records of no theme. -/
@[simp] lemma active_setBucket (m : OrderedMap TokenKey TokenRecord) :
    (g.setBucket c m).active t = g.active t := by
  cases t <;> rfl

/-- Setting the active records of a theme leaves the audit trail alone. -/
@[simp] lemma audit_setActive (m : OrderedMap String TokenRecord) :
    (g.setActive theme m).audit = g.audit := by
  cases theme <;> rfl

/-- Setting the active records of a theme leaves the remembered names alone. -/
@[simp] lemma listing_setActive (m : OrderedMap String TokenRecord) :
    (g.setActive theme m).listing = g.listing := by
  cases theme <;> rfl

/-! ### What the operations do to the theme index -/

/-- Activation in two steps: the bucket of a displaced record of another category loses it, then
the record is installed. -/
def vacate (g : Registry) (r : TokenRecord) : Registry :=
  match g.activeRecord? r.name r.theme with
  | some previous =>
      if previous.category = r.category then g
      else g.setBucket previous.category ((g.bucket previous.category).erase r.key)
  | none => g

/-- Activation vacates the key first and then installs the record in both indices. -/
lemma activate_eq_vacate :
    g.activate r
      = ((g.vacate r).setActive r.theme (((g.vacate r).active r.theme).insert r.name r)).setBucket
          r.category (((g.vacate r).bucket r.category).insert r.key r) := by
  have hbucket : ∀ m, ((g.vacate r).setActive r.theme m).bucket r.category
      = (g.vacate r).bucket r.category := fun m => bucket_setActive m
  rw [← hbucket]
  rfl

/-- Vacating leaves the theme index alone. -/
lemma active_vacate : (g.vacate r).active t = g.active t := by
  unfold vacate
  split
  · split
    · rfl
    · exact active_setBucket _
  · rfl

/-- Activation gives its key the record, and changes no other key. -/
lemma activeRecord?_activate :
    (g.activate r).activeRecord? name t
      = if (name, t) = r.key then some r else g.activeRecord? name t := by
  rw [activate_eq_vacate, activeRecord?_setBucket, activeRecord?_setActive, active_vacate,
    OrderedMap.get?_insert]
  have hvacate : (g.vacate r).activeRecord? name t = g.activeRecord? name t := by
    rw [activeRecord?, active_vacate, activeRecord?]
  rw [hvacate]
  by_cases ht : t = r.theme
  · subst ht
    simp [TokenRecord.key, activeRecord?, eq_comm]
  · simp [TokenRecord.key, ht]

/-- Deactivation takes the record of its key away, and changes no other key. -/
lemma activeRecord?_deactivate :
    (g.deactivate n theme).activeRecord? name t
      = if (name, t) = (n, theme) then none else g.activeRecord? name t := by
  unfold deactivate
  split
  · next hnone =>
    split
    · next heq =>
      obtain ⟨rfl, rfl⟩ := Prod.mk.inj heq
      exact hnone
    · rfl
  · next previous hprevious =>
    rw [activeRecord?_setBucket, activeRecord?_setActive, OrderedMap.get?_erase]
    by_cases ht : t = theme
    · subst ht
      simp [activeRecord?, eq_comm]
    · simp [ht]

/-- The audit trail is no part of the theme index. -/
@[simp] lemma activeRecord?_record :
    (g.record r).activeRecord? name t = g.activeRecord? name t := by
  cases t <;> rfl

/-! ### The category index follows the theme index -/

/-- The category index says what the theme index says: an active record stands under its own name
and theme, and in the bucket of its category under its key. -/
structure Consistent (g : Registry) : Prop where
  /-- An active record has the name and the theme under which it stands. -/
  key_of_active : ∀ {name t r}, g.activeRecord? name t = some r → r.key = (name, t)
  /-- A bucket has the active records of its category. -/
  mem_bucket : ∀ {c key r}, (g.bucket c).get? key = some r ↔
    g.activeRecord? key.1 key.2 = some r ∧ r.category = c

/-- The indices of the empty registry agree. -/
lemma consistent_empty : empty.Consistent where
  key_of_active := by
    intro name t r h
    cases t <;> cases h
  mem_bucket := by
    intro c key r
    obtain ⟨name, t⟩ := key
    constructor
    · intro h
      cases h
    · rintro ⟨h, -⟩
      cases t <;> cases h

/-- A bucket does not have a key whose active record is of another category. -/
lemma get?_bucket_eq_none (hg : g.Consistent)
    (h : ∀ s, g.activeRecord? key.1 key.2 = some s → s.category ≠ c) :
    (g.bucket c).get? key = none := by
  rw [Option.eq_none_iff_forall_ne_some]
  intro s hs
  obtain ⟨hactive, hcategory⟩ := hg.mem_bucket.mp hs
  exact h s hactive hcategory

/-- Removing a key from the bucket of its active record removes it from every bucket. -/
lemma get?_bucket_erase (hg : g.Consistent) (h : g.activeRecord? n theme = some s) :
    ((g.setBucket s.category ((g.bucket s.category).erase (n, theme))).bucket c).get? key
      = if key = (n, theme) then none else (g.bucket c).get? key := by
  rw [bucket_setBucket]
  by_cases hc : s.category = c
  · subst hc
    rw [if_pos rfl, OrderedMap.get?_erase]
    simp only [eq_comm]
  · rw [if_neg hc]
    by_cases hkey : key = (n, theme)
    · have hother : ∀ s', g.activeRecord? key.1 key.2 = some s' → s'.category ≠ c := by
        intro s' hs'
        rw [hkey, h, Option.some.injEq] at hs'
        exact hs' ▸ hc
      rw [if_pos hkey, get?_bucket_eq_none hg hother]
    · rw [if_neg hkey]

/-- Vacating removes the key from every bucket that the new record does not belong to. -/
lemma get?_bucket_vacate (hg : g.Consistent) (hc : c ≠ r.category) :
    ((g.vacate r).bucket c).get? key = if key = r.key then none else (g.bucket c).get? key := by
  unfold vacate
  split
  · next previous hprevious =>
    split
    · next hsame =>
      split
      · next hkey =>
        refine get?_bucket_eq_none hg fun s hs => ?_
        rw [hkey, TokenRecord.key, hprevious, Option.some.injEq] at hs
        rw [← hs, hsame]
        exact hc.symm
      · rfl
    · exact get?_bucket_erase hg hprevious
  · next hnone =>
    split
    · next hkey =>
      refine get?_bucket_eq_none hg fun s hs => ?_
      rw [hkey, TokenRecord.key, hnone] at hs
      cases hs
    · rfl

/-- Vacating leaves the bucket alone that the new record belongs to. -/
lemma bucket_vacate_self : (g.vacate r).bucket r.category = g.bucket r.category := by
  unfold vacate
  split
  · split
    · rfl
    · next hother => rw [bucket_setBucket, if_neg hother]
  · rfl

/-- After activation the key of the record is in the bucket of its category and in no other. -/
lemma get?_bucket_activate (hg : g.Consistent) :
    ((g.activate r).bucket c).get? key
      = if key = r.key then if c = r.category then some r else none
        else (g.bucket c).get? key := by
  rw [activate_eq_vacate, bucket_setBucket]
  by_cases hc : r.category = c
  · subst hc
    rw [if_pos rfl, OrderedMap.get?_insert, bucket_vacate_self]
    simp only [eq_comm, if_true]
  · rw [if_neg hc, bucket_setActive, get?_bucket_vacate hg (Ne.symm hc)]
    simp only [Ne.symm hc, if_false]

/-- After deactivation the key is in no bucket. -/
lemma get?_bucket_deactivate (hg : g.Consistent) :
    ((g.deactivate n theme).bucket c).get? key
      = if key = (n, theme) then none else (g.bucket c).get? key := by
  unfold deactivate
  split
  · next hnone =>
    split
    · next hkey =>
      refine get?_bucket_eq_none hg fun s hs => ?_
      rw [hkey, hnone] at hs
      cases hs
    · rfl
  · next previous hprevious =>
    rw [← get?_bucket_erase hg hprevious, bucket_setBucket, bucket_setBucket, bucket_setActive,
      bucket_setActive]

/-- Activation keeps the indices in agreement. -/
lemma Consistent.activate (hg : g.Consistent) (r : TokenRecord) : (g.activate r).Consistent where
  key_of_active := by
    intro name t s h
    rw [activeRecord?_activate] at h
    split at h
    · next hkey =>
      cases h
      exact hkey.symm
    · exact hg.key_of_active h
  mem_bucket := by
    intro c key s
    rw [get?_bucket_activate hg, activeRecord?_activate]
    by_cases hkey : key = r.key
    · subst hkey
      by_cases hc : c = r.category
      · subst hc
        simpa using fun h : r = s => h ▸ rfl
      · simpa [hc] using fun h : r = s => h ▸ Ne.symm hc
    · simp [hkey, hg.mem_bucket]

/-- Deactivation keeps the indices in agreement. -/
lemma Consistent.deactivate (hg : g.Consistent) (n : String) (theme : Theme) :
    (g.deactivate n theme).Consistent where
  key_of_active := by
    intro name t s h
    rw [activeRecord?_deactivate] at h
    split at h
    · cases h
    · exact hg.key_of_active h
  mem_bucket := by
    intro c key s
    rw [get?_bucket_deactivate hg, activeRecord?_deactivate]
    by_cases hkey : key = (n, theme)
    · simp [hkey]
    · simp [hkey, hg.mem_bucket]

/-- The audit trail is no part of the indices, so a record in it keeps them in agreement. -/
lemma Consistent.record (hg : g.Consistent) (r : TokenRecord) : (g.record r).Consistent where
  key_of_active := by
    intro name t s h
    rw [activeRecord?_record] at h
    exact hg.key_of_active h
  mem_bucket := by
    intro c key s
    rw [activeRecord?_record]
    exact hg.mem_bucket

/-! ### The audit trail follows the registrations -/

/-- The names of records, each once, in the order in which they come first. -/
def distinctNames (rs : List TokenRecord) : List String :=
  (rs.map TokenRecord.name).eraseDups

/-- The audit trail and the remembered names are those of the records `rs`, oldest first. -/
structure Trail (g : Registry) (rs : List TokenRecord) : Prop where
  /-- A name has its records, in order. -/
  getAll_eq : ∀ n, g.getAll n = rs.filter fun r => r.name = n
  /-- The names stand in the order of their first record. -/
  keys_eq : g.audit.keys = distinctNames rs
  /-- Every record is counted. -/
  size_eq : g.size = rs.length
  /-- What is remembered of the names is up to date. -/
  listing_eq : ∀ ns, g.listing = some ns → ns = g.audit.keys

/-- The empty registry has no audit trail. -/
lemma trail_empty : empty.Trail [] where
  getAll_eq := fun _ => rfl
  keys_eq := rfl
  size_eq := rfl
  listing_eq := by
    intro ns h
    cases h

/-- The names of a registry are those of its trail, remembered or not. -/
lemma Trail.names_eq (hg : g.Trail rs) : g.names = distinctNames rs := by
  rw [names, ← hg.keys_eq]
  cases h : g.listing with
  | none => rfl
  | some ns => exact hg.listing_eq ns h

/-- Only the audit trail and the remembered names count. -/
lemma Trail.of_eq {g' : Registry} (hg : g.Trail rs) (haudit : g'.audit = g.audit)
    (hlisting : g'.listing = g.listing) : g'.Trail rs where
  getAll_eq := by
    intro n
    rw [← hg.getAll_eq n, getAll, getAll, haudit]
  keys_eq := by rw [haudit, hg.keys_eq]
  size_eq := by rw [← hg.size_eq, size, size, haudit]
  listing_eq := by rw [haudit, hlisting]; exact hg.listing_eq

/-- Activation adds nothing to the audit trail. -/
lemma Trail.activate (hg : g.Trail rs) (r : TokenRecord) : (g.activate r).Trail rs := by
  have hvacate : (g.vacate r).audit = g.audit ∧ (g.vacate r).listing = g.listing := by
    unfold vacate
    split
    · split <;> exact ⟨rfl, rfl⟩
    · exact ⟨rfl, rfl⟩
  refine hg.of_eq ?_ ?_ <;> rw [activate_eq_vacate]
  · exact (audit_setActive _).trans hvacate.1
  · exact (listing_setActive _).trans hvacate.2

/-- Deactivation adds nothing to the audit trail. -/
lemma Trail.deactivate (hg : g.Trail rs) (n : String) (theme : Theme) :
    (g.deactivate n theme).Trail rs := by
  unfold Registry.deactivate
  split
  · exact hg
  · exact hg.of_eq (audit_setActive _) (listing_setActive _)

/-- Listing the names remembers them as they are. -/
lemma Trail.listNames (hg : g.Trail rs) : g.listNames.Trail rs where
  getAll_eq := hg.getAll_eq
  keys_eq := hg.keys_eq
  size_eq := hg.size_eq
  listing_eq := by
    intro ns h
    rw [Registry.listNames, Option.some.injEq, hg.names_eq, ← hg.keys_eq] at h
    exact h.symm

/-- Adding a record to the entry of a name adds one record to the whole list. -/
lemma length_flatten_assignEntry (es : List (String × List TokenRecord)) :
    ((OrderedMap.assignEntry n ((OrderedMap.lookupEntry n es).getD [] ++ [r]) es).map
        Prod.snd).flatten.length
      = (es.map Prod.snd).flatten.length + 1 := by
  induction es with
  | nil => rfl
  | cons e es ih =>
    obtain ⟨k, v⟩ := e
    by_cases hk : k = n
    · simp only [OrderedMap.assignEntry, OrderedMap.lookupEntry, hk, if_true, Option.getD_some,
        List.map_cons, List.flatten_cons, List.length_append, List.length_singleton]
      omega
    · simp only [OrderedMap.assignEntry, OrderedMap.lookupEntry, hk, if_false, List.map_cons,
        List.flatten_cons, List.length_append, ih]
      omega

/-- One more name is a new one at the end, unless it is known. -/
lemma distinctNames_concat :
    distinctNames (rs ++ [r])
      = if r.name ∈ distinctNames rs then distinctNames rs else distinctNames rs ++ [r.name] := by
  rw [distinctNames, List.map_append, List.map_singleton, History.eraseDups_concat, distinctNames]
  simp only [List.mem_eraseDups]

/-- A registration adds one record to the trail. -/
lemma Trail.record (hg : g.Trail rs) (r : TokenRecord) : (g.record r).Trail (rs ++ [r]) where
  getAll_eq := by
    intro n
    rw [Registry.record, getAll, OrderedMap.get?_insert]
    by_cases hn : r.name = n
    · simp [hn, ← hg.getAll_eq]
    · simp [hn, ← hg.getAll_eq, getAll]
  keys_eq := by
    rw [distinctNames_concat, ← hg.keys_eq]
    exact OrderedMap.keys_insert _ _ _
  size_eq := by
    rw [List.length_append, ← hg.size_eq]
    exact length_flatten_assignEntry g.audit.entries
  listing_eq := by
    intro ns h
    cases h

/-! ### Runs -/

/-- What can be asked of a registry that changes its state; listing the names does, because they
are remembered. -/
inductive Operation
  /-- Register a record, and make it active if that is wanted. -/
  | register (r : TokenRecord) (active : Bool)
  /-- Register records one after another, each as active. -/
  | registerAll (rs : List TokenRecord)
  /-- Make a record active that may never have been registered. -/
  | activate (r : TokenRecord)
  /-- Remove the active record of a key. -/
  | deactivate (name : String) (theme : Theme)
  /-- Remove all records. -/
  | clear
  /-- List the names. -/
  | listNames

namespace Operation

/-- Carry out an operation. -/
def apply (g : Registry) : Operation → Registry
  | register r true => g.register r
  | register r false => g.record r
  | registerAll rs => g.registerAll rs
  | activate r => g.activate r
  | deactivate name theme => g.deactivate name theme
  | clear => empty
  | listNames => g.listNames

/-- Is everything removed? -/
def isClear : Operation → Bool
  | clear => true
  | _ => false

/-- The records that an operation registers, in order. -/
def registered : Operation → List TokenRecord
  | register r _ => [r]
  | registerAll rs => rs
  | _ => []

/-- What an operation decides about the active record of a key, if it decides anything. -/
def decides? (key : TokenKey) : Operation → Option (Option TokenRecord)
  | register r true => if r.key = key then some (some r) else none
  | registerAll rs => (TokenRecord.lastFor? key rs).map some
  | activate r => if r.key = key then some (some r) else none
  | deactivate name theme => if (name, theme) = key then some none else none
  | clear => some none
  | _ => none

end Operation

/-- The registry after a sequence of operations on an empty one. -/
def run (ops : List Operation) : Registry :=
  ops.foldl Operation.apply empty

/-- The records that were registered since the last removal of all, in order. -/
def registrations (ops : List Operation) : List TokenRecord :=
  (History.sinceLast Operation.isClear ops).flatMap Operation.registered

/-- The record of a key by the last operation that decides about it. -/
def decided? (ops : List Operation) (key : TokenKey) : Option TokenRecord :=
  (History.lastSome? (Operation.decides? key) ops).join

/-- The last operation of a run is performed last. -/
lemma run_concat (ops : List Operation) (op : Operation) :
    run (ops ++ [op]) = op.apply (run ops) :=
  List.foldl_concat ..

/-- A clear forgets what was registered, and any other operation adds its records. -/
lemma registrations_concat (ops : List Operation) (op : Operation) :
    registrations (ops ++ [op])
      = if op.isClear then [] else registrations ops ++ op.registered := by
  rw [registrations, History.sinceLast_concat, registrations]
  split <;> simp

/-- The last operation that says something about a key decides it. -/
lemma decided?_concat (ops : List Operation) (op : Operation) (key : TokenKey) :
    decided? (ops ++ [op]) key = (op.decides? key).getD (decided? ops key) := by
  rw [decided?, History.lastSome?_concat, decided?]
  cases op.decides? key <;> rfl

/-- Registering several records keeps the indices in agreement. -/
lemma Consistent.registerAll (hg : g.Consistent) (rs : List TokenRecord) :
    (g.registerAll rs).Consistent := by
  induction rs generalizing g with
  | nil => exact hg
  | cons r rs ih => exact ih ((hg.record r).activate r)

/-- Registering several records adds them to the audit trail, in order. -/
lemma Trail.registerAll (hg : g.Trail rs) (new : List TokenRecord) :
    (g.registerAll new).Trail (rs ++ new) := by
  induction new generalizing g rs with
  | nil => rwa [List.append_nil]
  | cons r new ih =>
    rw [List.append_cons]
    exact ih ((hg.record r).activate r)

/-- After a batch, a key has the last record of the batch that is for it. -/
lemma activeRecord?_registerAll :
    (g.registerAll rs).activeRecord? name t
      = (TokenRecord.lastFor? (name, t) rs).or (g.activeRecord? name t) := by
  induction rs using List.reverseRecOn with
  | nil => rfl
  | append_singleton rs r ih =>
    have hstep : g.registerAll (rs ++ [r]) = ((g.registerAll rs).record r).activate r :=
      List.foldl_concat ..
    rw [hstep, activeRecord?_activate, activeRecord?_record, ih, TokenRecord.lastFor?_concat]
    by_cases hkey : (name, t) = r.key
    · rw [if_pos hkey, if_pos hkey.symm, Option.some_or]
    · rw [if_neg hkey, if_neg (Ne.symm hkey)]

/-- Every operation keeps the category index in step with the theme index. -/
lemma Consistent.apply (hg : g.Consistent) (op : Operation) : (op.apply g).Consistent := by
  cases op with
  | register r active =>
    cases active with
    | true => exact (hg.record r).activate r
    | false => exact hg.record r
  | registerAll rs => exact hg.registerAll rs
  | activate r => exact hg.activate r
  | deactivate name theme => exact hg.deactivate name theme
  | clear => exact consistent_empty
  | listNames => exact ⟨hg.key_of_active, hg.mem_bucket⟩

/-- Every operation keeps the trail in step with the registrations. -/
lemma Trail.apply (hg : g.Trail rs) (op : Operation) :
    (op.apply g).Trail (if op.isClear then [] else rs ++ op.registered) := by
  have hnone : rs ++ [] = rs := List.append_nil rs
  cases op with
  | register r active =>
    cases active with
    | true => exact (hg.record r).activate r
    | false => exact hg.record r
  | registerAll new => exact hg.registerAll new
  | activate r => exact hnone.symm ▸ hg.activate r
  | deactivate name theme => exact hnone.symm ▸ hg.deactivate name theme
  | clear => exact trail_empty
  | listNames => exact hnone.symm ▸ hg.listNames

/-- An operation gives a key the record that it decides on, or leaves it alone. -/
lemma activeRecord?_apply (op : Operation) (key : TokenKey) :
    (op.apply g).activeRecord? key.1 key.2
      = (op.decides? key).getD (g.activeRecord? key.1 key.2) := by
  have hsymm : ∀ key' : TokenKey, (key.1, key.2) = key' ↔ key' = key := fun _ => eq_comm
  cases op with
  | register r active =>
    cases active with
    | true =>
      rw [Operation.apply, register, activeRecord?_activate, activeRecord?_record,
        Operation.decides?]
      by_cases hkey : r.key = key <;> simp [hkey, hsymm]
    | false => exact activeRecord?_record
  | registerAll rs =>
    rw [Operation.apply, activeRecord?_registerAll, Operation.decides?]
    cases TokenRecord.lastFor? key rs <;> rfl
  | activate r =>
    rw [Operation.apply, activeRecord?_activate, Operation.decides?]
    by_cases hkey : r.key = key <;> simp [hkey, hsymm]
  | deactivate name theme =>
    rw [Operation.apply, activeRecord?_deactivate, Operation.decides?]
    by_cases hkey : (name, theme) = key <;> simp [hkey, hsymm]
  | clear =>
    obtain ⟨name, t⟩ := key
    cases t <;> rfl
  | listNames =>
    obtain ⟨name, t⟩ := key
    cases t <;> rfl

/-- The indices agree after every run. -/
lemma consistent_run (ops : List Operation) : (run ops).Consistent := by
  induction ops using List.reverseRecOn with
  | nil => exact consistent_empty
  | append_singleton ops op ih =>
    rw [run_concat]
    exact ih.apply op

/-- After every run the audit trail has the records that were registered. -/
lemma trail_run (ops : List Operation) : (run ops).Trail (registrations ops) := by
  induction ops using List.reverseRecOn with
  | nil => exact trail_empty
  | append_singleton ops op ih =>
    rw [run_concat, registrations_concat]
    exact ih.apply op

/-- After every run a look-up gives what was decided last for the key. -/
lemma activeRecord?_run (ops : List Operation) (name : String) (t : Theme) :
    (run ops).activeRecord? name t = decided? ops (name, t) := by
  induction ops using List.reverseRecOn with
  | nil => cases t <;> rfl
  | append_singleton ops op ih =>
    rw [run_concat, decided?_concat, ← ih]
    exact activeRecord?_apply op (name, t)

/-- In a consistent registry the records of a category are the active ones that have it. -/
lemma mem_ofCategory_iff (hg : g.Consistent) :
    r ∈ g.ofCategory c ↔ (r ∈ g.ofTheme .light ∨ r ∈ g.ofTheme .dark) ∧ r.category = c := by
  have hactive : (∃ key : TokenKey, g.activeRecord? key.1 key.2 = some r)
      ↔ r ∈ g.ofTheme .light ∨ r ∈ g.ofTheme .dark := by
    simp only [ofTheme, OrderedMap.mem_values_iff, Prod.exists]
    constructor
    · rintro ⟨name, t, h⟩
      cases t with
      | light => exact Or.inl ⟨name, h⟩
      | dark => exact Or.inr ⟨name, h⟩
    · rintro (⟨name, h⟩ | ⟨name, h⟩)
      · exact ⟨name, .light, h⟩
      · exact ⟨name, .dark, h⟩
  rw [ofCategory, OrderedMap.mem_values_iff, ← hactive]
  simp only [hg.mem_bucket, exists_and_right]

/-- In a consistent registry no record of a category is listed twice: a bucket has different keys,
and a record stands under its own. -/
lemma nodup_ofCategory (hg : g.Consistent) : (g.ofCategory c).Nodup := by
  have hkeys : (g.ofCategory c).map TokenRecord.key = (g.bucket c).keys := by
    rw [ofCategory, OrderedMap.values, OrderedMap.keys, List.map_map]
    refine List.map_congr_left fun e he => ?_
    have hmem := hg.mem_bucket.mp (OrderedMap.mem_entries_iff.mp he)
    exact hg.key_of_active hmem.1
  exact List.Nodup.of_map TokenRecord.key (hkeys ▸ (g.bucket c).keys_nodup)

/-- After every sequence of operations the indices agree.  A category lists, each once, the active
records that have it; an active record stands under its own theme and name, and is the one that
the last operation on its key decided on; the audit trail has the records that were registered
since the last removal of all, in order; and the numbers and the names, remembered or not, are
those of that list. -/
theorem indices_agree (ops : List Operation) :
    let g := run ops
    let rs := registrations ops
    (∀ c, (g.ofCategory c).Nodup ∧ ∀ r, r ∈ g.ofCategory c ↔
        (r ∈ g.ofTheme .light ∨ r ∈ g.ofTheme .dark) ∧ r.category = c) ∧
    (∀ t, ∀ e ∈ (g.active t).entries, e.2.theme = t ∧ e.2.name = e.1) ∧
    (∀ name t, g.get? name (some t) = decided? ops (name, t)) ∧
    (∀ name, g.getAll name = rs.filter fun r => r.name = name) ∧
    g.size = rs.length ∧
    g.uniqueSize = (distinctNames rs).length ∧
    (∀ name, g.has name = true ↔ name ∈ distinctNames rs) ∧
    g.names = distinctNames rs := by
  intro g rs
  have hg : g.Consistent := consistent_run ops
  have htrail : g.Trail rs := trail_run ops
  refine ⟨fun c => ⟨nodup_ofCategory hg, fun r => mem_ofCategory_iff hg⟩, ?_,
    activeRecord?_run ops, htrail.getAll_eq, htrail.size_eq, ?_, ?_, htrail.names_eq⟩
  · intro t e he
    have hkey := hg.key_of_active (OrderedMap.mem_entries_iff.mp he)
    exact ⟨congrArg Prod.snd hkey, congrArg Prod.fst hkey⟩
  · rw [← htrail.keys_eq, OrderedMap.keys, List.length_map]
    rfl
  · intro name
    rw [has, OrderedMap.contains_iff, htrail.keys_eq]

end Registry

end DesignTokens
