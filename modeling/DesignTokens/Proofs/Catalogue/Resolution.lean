import DesignTokens.Proofs.Registry.Indices
import DesignTokens.Workspace.Catalogue
import Mathlib.Data.Prod.Lex
import Mathlib.Data.String.Basic

/-!
# Resolving competing records

The catalogue has a candidate of each source for each key, and the active record of a key is the
candidate that ranks first.  This file says what a merge does to the candidates and to the active
records, and compares the catalogue with the latest loads.

`Settled` is the invariant of single steps: the candidates of a key are records for it, and the
first of them is active.  Retracting a candidate and offering one keep it.  `Reflects` is the
invariant of whole merges: the candidates are what the latest load of each source says, with the
rank that the load used.  In a catalogue that reflects its loads, the active record of a key is
the authoritative one among them (`Reflects.activeRecord?_eq_some_iff`), which is a statement
about the loads alone: neither their order nor what happened before them counts.
-/

namespace DesignTokens

/-! ### The first in rank -/

/-- Precedence is the lexicographic order: the rank counts first, then the source. -/
lemma precedenceLe_iff {p q : Int × String} : precedenceLe p q = true ↔ toLex p ≤ toLex q := by
  rw [Prod.Lex.toLex_le_toLex, precedenceLe, Bool.or_eq_true, Bool.and_eq_true, Bool.not_eq_true',
    decide_eq_true_eq, decide_eq_true_eq, decide_eq_false_iff_not, not_lt]

/-- There is a first in rank unless there are no records. -/
lemma firstRanked?_eq_none_iff {rs : List TokenRecord} : firstRanked? rs = none ↔ rs = [] := by
  cases rs with
  | nil => simp [firstRanked?]
  | cons r rs =>
    rw [firstRanked?]
    split
    · simp
    · split <;> simp

/-- The first in rank is one of the records, and none of them precedes it. -/
lemma firstRanked?_spec {rs : List TokenRecord} {r : TokenRecord} (h : firstRanked? rs = some r) :
    r ∈ rs ∧ ∀ s ∈ rs, toLex r.precedence ≤ toLex s.precedence := by
  induction rs generalizing r with
  | nil => simp [firstRanked?] at h
  | cons a rs ih =>
    rw [firstRanked?] at h
    split at h
    · next hnone =>
      rw [firstRanked?_eq_none_iff] at hnone
      cases h
      simp [hnone]
    · next s hs =>
      obtain ⟨hmem, hle⟩ := ih hs
      split at h
      · next hfirst =>
        cases h
        rw [precedenceLe_iff] at hfirst
        refine ⟨List.mem_cons_self, List.forall_mem_cons.mpr ⟨le_rfl, fun b hb => ?_⟩⟩
        exact hfirst.trans (hle b hb)
      · next hlater =>
        cases h
        rw [precedenceLe_iff, not_le] at hlater
        exact ⟨List.mem_cons_of_mem _ hmem, List.forall_mem_cons.mpr ⟨hlater.le, hle⟩⟩

namespace Catalogue

variable {c : Catalogue} {key k : TokenKey} {id i : String} {r : TokenRecord}
  {rs : List TokenRecord}

/-! ### Single steps -/

/-- The candidates of a key are records for it, and the first of them in rank is the active record
of the key. -/
structure Settled (c : Catalogue) : Prop where
  /-- A candidate has the key under which it stands. -/
  key_of_candidate : ∀ {key id r}, (c.candidatesOf key).get? id = some r → r.key = key
  /-- The active record is the first candidate. -/
  active_eq : ∀ key : TokenKey,
    c.registry.activeRecord? key.1 key.2 = firstRanked? (c.candidatesOf key).values

/-- The empty catalogue is settled. -/
lemma settled_empty : empty.Settled where
  key_of_candidate := by
    intro key id r h
    cases h
  active_eq := by
    rintro ⟨name, t⟩
    cases t <;> rfl

/-- Resolving a key changes no candidates: an entry that it removes has none. -/
@[simp] lemma candidatesOf_resolve : (c.resolve key).candidatesOf k = c.candidatesOf k := by
  unfold resolve
  split
  · next hnone =>
    rw [firstRanked?_eq_none_iff] at hnone
    rw [candidatesOf, OrderedMap.get?_erase]
    by_cases hk : key = k
    · subst hk
      rw [if_pos rfl, OrderedMap.eq_empty_of_values hnone]
      rfl
    · rw [if_neg hk]
      rfl
  · rfl

/-- Picking the active record does not change which keys a source contributed. -/
@[simp] lemma contributed_resolve : (c.resolve key).contributed = c.contributed := by
  unfold resolve
  split <;> rfl

/-- Resolving a key gives it the first of its candidates, and changes no other key. -/
lemma activeRecord?_resolve (hkey : ∀ {id r}, (c.candidatesOf key).get? id = some r → r.key = key) :
    (c.resolve key).registry.activeRecord? k.1 k.2
      = if k = key then firstRanked? (c.candidatesOf key).values
        else c.registry.activeRecord? k.1 k.2 := by
  unfold resolve
  split
  · next hnone => rw [Registry.activeRecord?_deactivate, hnone]
  · next best hbest =>
    obtain ⟨id, hid⟩ := OrderedMap.mem_values_iff.mp (firstRanked?_spec hbest).1
    rw [Registry.activeRecord?_activate, hkey hid, hbest]

/-- A catalogue in which only one key may have an outdated active record is settled by resolving
that key. -/
lemma settled_resolve
    (hkey : ∀ {k id r}, (c.candidatesOf k).get? id = some r → r.key = k)
    (hactive : ∀ k, k ≠ key →
      c.registry.activeRecord? k.1 k.2 = firstRanked? (c.candidatesOf k).values) :
    (c.resolve key).Settled where
  key_of_candidate := by
    intro k id r h
    rw [candidatesOf_resolve] at h
    exact hkey h
  active_eq := by
    intro k
    rw [activeRecord?_resolve hkey, candidatesOf_resolve]
    by_cases hk : k = key
    · rw [if_pos hk, hk]
    · rw [if_neg hk, hactive k hk]

/-- The candidates with one key's replaced. -/
def withCandidates (c : Catalogue) (key : TokenKey) (m : OrderedMap String TokenRecord) :
    Catalogue :=
  { c with candidates := c.candidates.insert key m }

/-- Setting the candidates of a key changes those of this key only. -/
lemma candidatesOf_withCandidates {m : OrderedMap String TokenRecord} :
    (c.withCandidates key m).candidatesOf k = if key = k then m else c.candidatesOf k := by
  rw [candidatesOf, withCandidates, OrderedMap.get?_insert]
  split <;> rfl

/-- Retracting takes the candidate of one source for one key away. -/
lemma candidatesOf_retract :
    (c.retract id key).candidatesOf k
      = if key = k then (c.candidatesOf key).erase id else c.candidatesOf k := by
  unfold retract
  split
  · next hnone =>
    have hempty : c.candidatesOf key = .empty := by rw [candidatesOf, hnone]; rfl
    rw [candidatesOf_resolve]
    split
    · next hk => rw [← hk, hempty]; rfl
    · rfl
  · next m hm =>
    have hm' : c.candidatesOf key = m := by rw [candidatesOf, hm]; rfl
    rw [candidatesOf_resolve, hm']
    exact candidatesOf_withCandidates

/-- Offering a record makes it the candidate of its source for its key. -/
lemma candidatesOf_offer :
    (c.offer id r).candidatesOf k
      = if r.key = k then (c.candidatesOf r.key).insert id r else c.candidatesOf k := by
  rw [offer, candidatesOf_resolve]
  exact candidatesOf_withCandidates

/-- Retracting keeps a catalogue settled. -/
lemma Settled.retract (hc : c.Settled) (id : String) (key : TokenKey) :
    (c.retract id key).Settled := by
  unfold Catalogue.retract
  split
  · exact settled_resolve hc.key_of_candidate fun k _ => hc.active_eq k
  · next m hm =>
    have hm' : c.candidatesOf key = m := by rw [candidatesOf, hm]; rfl
    refine settled_resolve ?_ ?_
    · intro k i r h
      rw [← withCandidates, candidatesOf_withCandidates] at h
      split at h
      · next hk =>
        rw [OrderedMap.get?_erase, ← hm'] at h
        split at h
        · cases h
        · exact hk ▸ hc.key_of_candidate h
      · exact hc.key_of_candidate h
    · intro k hk
      rw [← withCandidates, candidatesOf_withCandidates, if_neg (Ne.symm hk)]
      exact hc.active_eq k

/-- Offering a record keeps a catalogue settled. -/
lemma Settled.offer (hc : c.Settled) (id : String) (r : TokenRecord) : (c.offer id r).Settled := by
  refine settled_resolve ?_ ?_
  · intro k i s h
    have h' : ((c.withCandidates r.key ((c.candidatesOf r.key).insert id r)).candidatesOf k).get? i
        = some s := h
    rw [candidatesOf_withCandidates] at h'
    split at h'
    · next hk =>
      rw [OrderedMap.get?_insert] at h'
      split at h'
      · exact Option.some.inj h' ▸ hk
      · exact hk ▸ hc.key_of_candidate h'
    · exact hc.key_of_candidate h'
  · intro k hk
    have hcandidates : (c.withCandidates r.key ((c.candidatesOf r.key).insert id r)).candidatesOf k
        = c.candidatesOf k := by
      rw [candidatesOf_withCandidates, if_neg (Ne.symm hk)]
    exact (Registry.activeRecord?_record.trans (hc.active_eq k)).trans
      (congrArg (fun m => firstRanked? m.values) hcandidates.symm)

/-! ### Merges -/

/-- Retract the candidates of a source for several keys. -/
def retractAll (c : Catalogue) (id : String) (keys : List TokenKey) : Catalogue :=
  keys.foldl (fun c key => c.retract id key) c

/-- Offer the records of a source one after another. -/
def offerAll (c : Catalogue) (id : String) (rs : List TokenRecord) : Catalogue :=
  rs.foldl (fun c r => c.offer id r) c

/-- Keys are retracted one after another, from the first on. -/
lemma retractAll_cons (keys : List TokenKey) :
    c.retractAll id (key :: keys) = (c.retract id key).retractAll id keys := rfl

/-- The last record is offered last. -/
lemma offerAll_concat : c.offerAll id (rs ++ [r]) = (c.offerAll id rs).offer id r :=
  List.foldl_concat ..

/-- Retracting several keys keeps a catalogue settled. -/
lemma Settled.retractAll (hc : c.Settled) (id : String) (keys : List TokenKey) :
    (c.retractAll id keys).Settled := by
  induction keys generalizing c with
  | nil => exact hc
  | cons key keys ih => exact ih (hc.retract id key)

/-- Offering several records keeps a catalogue settled. -/
lemma Settled.offerAll (hc : c.Settled) (id : String) (rs : List TokenRecord) :
    (c.offerAll id rs).Settled := by
  induction rs generalizing c with
  | nil => exact hc
  | cons r rs ih => exact ih (hc.offer id r)

/-- After the retractions the source has no candidate for any of the keys. -/
lemma get?_candidatesOf_retractAll (keys : List TokenKey) :
    ((c.retractAll id keys).candidatesOf k).get? i
      = if i = id ∧ k ∈ keys then none else (c.candidatesOf k).get? i := by
  induction keys generalizing c with
  | nil => simp [retractAll]
  | cons key keys ih =>
    rw [retractAll_cons, ih, candidatesOf_retract]
    by_cases hk : key = k
    · subst hk
      rw [if_pos rfl, OrderedMap.get?_erase]
      by_cases hi : i = id
      · simp [hi]
      · simp [hi, Ne.symm hi]
    · rw [if_neg hk]
      simp only [List.mem_cons, Ne.symm hk, false_or]

/-- After the offers the candidate of the source for a key is the last record that is for it. -/
lemma get?_candidatesOf_offerAll :
    ((c.offerAll id rs).candidatesOf k).get? i
      = if i = id then (TokenRecord.lastFor? k rs).or ((c.candidatesOf k).get? i)
        else (c.candidatesOf k).get? i := by
  induction rs using List.reverseRecOn with
  | nil => simp [offerAll]
  | append_singleton rs r ih =>
    rw [offerAll_concat, candidatesOf_offer, TokenRecord.lastFor?_concat]
    by_cases hk : r.key = k
    · subst hk
      rw [if_pos rfl, if_pos rfl, OrderedMap.get?_insert, ih]
      by_cases hi : i = id
      · simp [hi]
      · simp [hi, Ne.symm hi]
    · rw [if_neg hk, if_neg hk, ih]

/-- Retracting does not change which keys the sources contributed. -/
lemma contributed_retractAll (keys : List TokenKey) :
    (c.retractAll id keys).contributed = c.contributed := by
  induction keys generalizing c with
  | nil => rfl
  | cons key keys ih =>
    rw [retractAll_cons, ih, retract]
    split <;> exact contributed_resolve

/-- Offering records does not change which keys the sources contributed. -/
lemma contributed_offerAll : (c.offerAll id rs).contributed = c.contributed := by
  induction rs using List.reverseRecOn with
  | nil => rfl
  | append_singleton rs r ih => rw [offerAll_concat, offer, contributed_resolve, ih]

/-- The keys that a source had and that its new records are not for. -/
def goneKeys (c : Catalogue) (id : String) (rs : List TokenRecord) : List TokenKey :=
  (c.keysOf id).filter fun key => !(rs.map TokenRecord.key).eraseDups.contains key

/-- The keys that are gone are those contributed before for which there is no new record. -/
lemma mem_goneKeys :
    key ∈ c.goneKeys id rs ↔ key ∈ c.keysOf id ∧ ∀ r ∈ rs, r.key ≠ key := by
  simp [goneKeys, List.mem_eraseDups]

/-- A merge retracts what is gone, offers the new records and notes their keys. -/
lemma merge_eq :
    c.merge id rs
      = { (c.retractAll id (c.goneKeys id rs)).offerAll id rs with
          contributed := ((c.retractAll id (c.goneKeys id rs)).offerAll id rs).contributed.insert id
            (rs.map TokenRecord.key).eraseDups } := rfl

/-- After a merge its source has contributed the keys of its records, and the others what they had.
-/
lemma mem_keysOf_merge :
    key ∈ (c.merge id rs).keysOf i
      ↔ if i = id then ∃ r ∈ rs, r.key = key else key ∈ c.keysOf i := by
  rw [merge_eq, keysOf, OrderedMap.get?_insert, contributed_offerAll, contributed_retractAll]
  by_cases hi : i = id
  · simp [hi, List.mem_eraseDups]
  · rw [if_neg (Ne.symm hi), if_neg hi, keysOf]

/-- A merge keeps a catalogue settled. -/
lemma Settled.merge (hc : c.Settled) (id : String) (rs : List TokenRecord) :
    (c.merge id rs).Settled := by
  have hsettled := (hc.retractAll id (c.goneKeys id rs)).offerAll id rs
  exact ⟨hsettled.key_of_candidate, hsettled.active_eq⟩

/-- After a merge the candidates of the source are the last records for their keys, provided that
it had candidates only for the keys that it contributed. -/
lemma get?_candidatesOf_merge
    (hkeys : ∀ key r, (c.candidatesOf key).get? id = some r → key ∈ c.keysOf id) :
    ((c.merge id rs).candidatesOf k).get? i
      = if i = id then TokenRecord.lastFor? k rs else (c.candidatesOf k).get? i := by
  have hmerge : (c.merge id rs).candidatesOf k
      = ((c.retractAll id (c.goneKeys id rs)).offerAll id rs).candidatesOf k := rfl
  rw [hmerge, get?_candidatesOf_offerAll, get?_candidatesOf_retractAll]
  by_cases hi : i = id
  · subst hi
    rw [if_pos rfl, if_pos rfl]
    cases hlast : TokenRecord.lastFor? k rs with
    | some r => rfl
    | none =>
      rw [TokenRecord.lastFor?_eq_none_iff] at hlast
      rw [Option.none_or]
      split
      · rfl
      · next hgone =>
        -- A key that is not gone either was not contributed, and then has no candidate.
        rw [Option.eq_none_iff_forall_ne_some]
        intro r hr
        exact hgone ⟨rfl, mem_goneKeys.mpr ⟨hkeys k r hr, hlast⟩⟩
  · simp only [hi, false_and, if_false]

/-! ### Reflecting the latest loads -/

end Catalogue

/-- The load of a source: the rank that it used, and what it gave. -/
structure Load where
  /-- The identity of the source. -/
  id : String
  /-- The rank that the source had. -/
  priority : Int
  /-- The records. -/
  records : List TokenRecord

namespace Load

/-- Is there a record for the key? -/
def Produces (l : Load) (key : TokenKey) : Prop :=
  ∃ r ∈ l.records, r.key = key

/-- The pair by which loads are compared. -/
def rank (l : Load) : Int × String :=
  (l.priority, l.id)

/-- Among the latest loads of the sources, `r` is the record for a key that counts: the last one
for that key in the load that ranks first among those that produced the key. -/
def IsAuthoritative (latest : String → Option Load) (key : TokenKey) (r : TokenRecord) : Prop :=
  ∃ id l, latest id = some l ∧ TokenRecord.lastFor? key l.records = some r ∧
    ∀ id' l', latest id' = some l' → l'.Produces key → toLex l.rank ≤ toLex l'.rank

end Load

namespace Catalogue

variable {c : Catalogue} {key : TokenKey} {r : TokenRecord} {latest : String → Option Load}

/-- The catalogue is what the latest loads of the sources say. -/
structure Reflects (c : Catalogue) (latest : String → Option Load) : Prop where
  /-- The active records are the first candidates. -/
  settled : c.Settled
  /-- The candidate of a source for a key is the last record of its latest load that is for it. -/
  candidate_eq : ∀ key id, (c.candidatesOf key).get? id
    = (latest id).bind fun l => TokenRecord.lastFor? key l.records
  /-- A source contributed the keys that its latest load produced. -/
  mem_keysOf : ∀ key id, key ∈ c.keysOf id ↔ ∃ l, latest id = some l ∧ l.Produces key
  /-- The latest load of a source is its own. -/
  load_id : ∀ id l, latest id = some l → l.id = id
  /-- A record ranks as its load does. -/
  precedence_eq : ∀ id l, latest id = some l → ∀ r ∈ l.records, r.precedence = l.rank

/-- The empty catalogue reflects that nothing was loaded. -/
lemma reflects_empty : empty.Reflects fun _ => none where
  settled := settled_empty
  candidate_eq := fun _ _ => rfl
  mem_keysOf := by
    intro key id
    constructor
    · intro h
      cases h
    · rintro ⟨l, h, -⟩
      cases h
  load_id := by
    intro id l h
    cases h
  precedence_eq := by
    intro id l h
    cases h

/-- Merging the records of a load makes it the latest one of its source. -/
lemma Reflects.merge (hc : c.Reflects latest) (l : Load)
    (hrank : ∀ r ∈ l.records, r.precedence = l.rank) :
    (c.merge l.id l.records).Reflects (Function.update latest l.id (some l)) where
  settled := hc.settled.merge l.id l.records
  candidate_eq := by
    intro key id
    have hkeys : ∀ key r, (c.candidatesOf key).get? l.id = some r → key ∈ c.keysOf l.id := by
      intro key r hr
      rw [hc.candidate_eq, Option.bind_eq_some_iff] at hr
      obtain ⟨l', hl', hr'⟩ := hr
      exact (hc.mem_keysOf key l.id).mpr ⟨l', hl', r, TokenRecord.mem_of_lastFor? hr'⟩
    rw [get?_candidatesOf_merge hkeys, Function.update_apply]
    split
    · rfl
    · exact hc.candidate_eq key id
  mem_keysOf := by
    intro key id
    rw [mem_keysOf_merge, Function.update_apply]
    split
    · simp [Load.Produces]
    · exact hc.mem_keysOf key id
  load_id := by
    intro id l' h
    rw [Function.update_apply] at h
    split at h
    · next hid => rw [← Option.some.inj h, hid]
    · exact hc.load_id id l' h
  precedence_eq := by
    intro id l' h
    rw [Function.update_apply] at h
    split at h
    · exact Option.some.inj h ▸ hrank
    · exact hc.precedence_eq id l' h

/-- The candidates for a key are the last records of the latest loads that produced it. -/
lemma Reflects.mem_candidates_iff (hc : c.Reflects latest) :
    r ∈ (c.candidatesOf key).values
      ↔ ∃ id l, latest id = some l ∧ TokenRecord.lastFor? key l.records = some r := by
  rw [OrderedMap.mem_values_iff]
  simp only [hc.candidate_eq, Option.bind_eq_some_iff]

/-- A key has no active record exactly when no latest load produced it. -/
lemma Reflects.activeRecord?_eq_none_iff (hc : c.Reflects latest) (key : TokenKey) :
    c.registry.activeRecord? key.1 key.2 = none
      ↔ ∀ id l, latest id = some l → ¬ l.Produces key := by
  rw [hc.settled.active_eq, firstRanked?_eq_none_iff, List.eq_nil_iff_forall_not_mem]
  constructor
  · rintro h id l hl hproduces
    obtain ⟨r, hr⟩ := TokenRecord.exists_lastFor? hproduces
    exact h r (hc.mem_candidates_iff.mpr ⟨id, l, hl, hr⟩)
  · intro h r hr
    obtain ⟨id, l, hl, hlast⟩ := hc.mem_candidates_iff.mp hr
    exact h id l hl ⟨r, TokenRecord.mem_of_lastFor? hlast⟩

/-- The active record of a key is the authoritative one among the latest loads. -/
lemma Reflects.activeRecord?_eq_some_iff (hc : c.Reflects latest) (key : TokenKey) :
    c.registry.activeRecord? key.1 key.2 = some r ↔ Load.IsAuthoritative latest key r := by
  -- The first candidate in rank is the last record of a load, and that load ranks first.
  have hfirst : ∀ {s}, c.registry.activeRecord? key.1 key.2 = some s →
      Load.IsAuthoritative latest key s := by
    intro s hs
    rw [hc.settled.active_eq] at hs
    obtain ⟨hmem, hle⟩ := firstRanked?_spec hs
    obtain ⟨id, l, hl, hlast⟩ := hc.mem_candidates_iff.mp hmem
    refine ⟨id, l, hl, hlast, fun id' l' hl' hproduces => ?_⟩
    obtain ⟨s', hlast'⟩ := TokenRecord.exists_lastFor? hproduces
    have hle' := hle s' (hc.mem_candidates_iff.mpr ⟨id', l', hl', hlast'⟩)
    rwa [hc.precedence_eq id l hl s (TokenRecord.mem_of_lastFor? hlast).1,
      hc.precedence_eq id' l' hl' s' (TokenRecord.mem_of_lastFor? hlast').1] at hle'
  refine ⟨hfirst, ?_⟩
  rintro ⟨id, l, hl, hlast, hle⟩
  have hproduces : l.Produces key := ⟨r, TokenRecord.mem_of_lastFor? hlast⟩
  obtain ⟨s, hs⟩ : ∃ s, c.registry.activeRecord? key.1 key.2 = some s := by
    rw [← Option.ne_none_iff_exists']
    intro hnone
    exact (hc.activeRecord?_eq_none_iff key).mp hnone id l hl hproduces
  -- Both loads rank first, so they are of the same source, and hence the same load.
  obtain ⟨id', l', hl', hlast', hle'⟩ := hfirst hs
  have hrank : l.rank = l'.rank := by
    apply toLex.injective
    apply le_antisymm
    · exact hle id' l' hl' ⟨s, TokenRecord.mem_of_lastFor? hlast'⟩
    · exact hle' id l hl hproduces
  have hid : id = id' := by
    rw [← hc.load_id id l hl, ← hc.load_id id' l' hl']
    exact congrArg Prod.snd hrank
  subst hid
  rw [hl, Option.some.injEq] at hl'
  subst hl'
  rw [hs, ← hlast', hlast]

end Catalogue

end DesignTokens
