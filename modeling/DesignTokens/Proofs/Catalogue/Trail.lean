import DesignTokens.Proofs.Catalogue.Resolution

/-!
# The trail of a catalogue

A merge registers the records of a source, one after another: what it retracts and what becomes
active is no part of the audit trail (`Trail.merge`).

Every candidate is a record of the trail, and the active record of a key is one of its candidates,
so no record is active without having been registered (`Catalogue.Registered`).  A name has a record
in the trail exactly if it has one at all.

A merge reads the records, the candidates, and which keys the source contributed, but not the order
in which sources were merged first.  Two catalogues that have all this in common (`SameStock`)
still have it in common after a merge, so nothing that is merged tells them apart.
-/

namespace DesignTokens

variable {c c' : Catalogue} {rs new : List TokenRecord} {r : TokenRecord} {id : String}
  {key : TokenKey}

/-! ### What a merge registers -/

namespace Registry

/-- Picking the active record adds nothing to the audit trail. -/
lemma Trail.resolve (hc : c.registry.Trail rs) (key : TokenKey) :
    (c.resolve key).registry.Trail rs := by
  unfold Catalogue.resolve
  split
  · exact hc.deactivate key.1 key.2
  · exact hc.activate _

/-- Retracting adds nothing to the audit trail. -/
lemma Trail.retractAll (hc : c.registry.Trail rs) (id : String) (keys : List TokenKey) :
    (c.retractAll id keys).registry.Trail rs := by
  induction keys generalizing c with
  | nil => exact hc
  | cons key keys ih =>
    rw [Catalogue.retractAll_cons]
    apply ih
    unfold Catalogue.retract
    split
    · exact hc.resolve key
    · apply Trail.resolve
      exact hc

/-- Offering records adds them to the audit trail, in order. -/
lemma Trail.offerAll (hc : c.registry.Trail rs) (id : String) (new : List TokenRecord) :
    (c.offerAll id new).registry.Trail (rs ++ new) := by
  induction new using List.reverseRecOn with
  | nil => rwa [List.append_nil]
  | append_singleton new r ih =>
    rw [Catalogue.offerAll_concat, ← List.append_assoc]
    exact Trail.resolve (ih.record r) r.key

/-- A merge registers the records of the source. -/
lemma Trail.merge (hc : c.registry.Trail rs) (id : String) (new : List TokenRecord) :
    (c.merge id new).registry.Trail (rs ++ new) :=
  (hc.retractAll id (c.goneKeys id new)).offerAll id new

end Registry

namespace Catalogue

/-! ### Active records are registered -/

/-- The trail of a settled catalogue, in which every candidate is found. -/
structure Registered (c : Catalogue) (rs : List TokenRecord) : Prop where
  /-- The catalogue is settled. -/
  settled : c.Settled
  /-- The records are the trail. -/
  trail : c.registry.Trail rs
  /-- Every candidate is one of them. -/
  mem_of_candidate : ∀ {key id r}, (c.candidatesOf key).get? id = some r → r ∈ rs

/-- In the empty catalogue nothing is active that was not registered. -/
lemma registered_empty : empty.Registered [] where
  settled := settled_empty
  trail := Registry.trail_empty
  mem_of_candidate := by
    intro key id r h
    cases h

/-- A merge registers what becomes a candidate. -/
lemma Registered.merge (hc : c.Registered rs) (id : String) (new : List TokenRecord) :
    (c.merge id new).Registered (rs ++ new) where
  settled := hc.settled.merge id new
  trail := hc.trail.merge id new
  mem_of_candidate := by
    intro k i r h
    have hold : ∀ {r}, ((c.retractAll id (c.goneKeys id new)).candidatesOf k).get? i = some r →
        r ∈ rs ++ new := by
      intro r hr
      rw [get?_candidatesOf_retractAll] at hr
      split at hr
      · cases hr
      · exact List.mem_append_left new (hc.mem_of_candidate hr)
    have hmerge : ((c.merge id new).candidatesOf k).get? i
        = (((c.retractAll id (c.goneKeys id new)).offerAll id new).candidatesOf k).get? i := rfl
    rw [hmerge, get?_candidatesOf_offerAll] at h
    split at h
    · rcases Option.or_eq_some_iff.mp h with hlast | ⟨-, hr⟩
      · exact List.mem_append_right rs (TokenRecord.mem_of_lastFor? hlast).1
      · exact hold hr
    · exact hold h

/-- An active record is in the trail, under the name under which it is active. -/
lemma Registered.mem_getAll (hc : c.Registered rs) {name : String} {t : Theme}
    (h : c.registry.activeRecord? name t = some r) :
    r ∈ c.registry.getAll name ∧ r.name = name := by
  rw [hc.settled.active_eq (name, t)] at h
  obtain ⟨id, hid⟩ := OrderedMap.mem_values_iff.mp (firstRanked?_spec h).1
  have hname : r.name = name := congrArg Prod.fst (hc.settled.key_of_candidate hid)
  rw [hc.trail.getAll_eq, List.mem_filter, decide_eq_true_eq]
  exact ⟨⟨hc.mem_of_candidate hid, hname⟩, hname⟩

/-- There is a record for a name exactly if one was registered. -/
lemma Registered.has_iff (hc : c.Registered rs) (name : String) :
    c.registry.has name = true ↔ (c.registry.get? name none).isSome := by
  have hhas : c.registry.has name = true ↔ c.registry.getAll name ≠ [] := by
    rw [Registry.has, OrderedMap.contains_iff, hc.trail.keys_eq, Registry.distinctNames,
      List.mem_eraseDups, List.mem_map, hc.trail.getAll_eq, ne_eq, List.filter_eq_nil_iff]
    simp
  have hactive : ∀ {t r}, c.registry.activeRecord? name t = some r →
      c.registry.getAll name ≠ [] := fun h =>
    List.ne_nil_of_mem (hc.mem_getAll h).1
  rw [hhas, Registry.get?]
  cases hlight : c.registry.activeRecord? name .light with
  | some r => exact iff_of_true (hactive hlight) rfl
  | none =>
    cases hdark : c.registry.activeRecord? name .dark with
    | some r => exact iff_of_true (hactive hdark) rfl
    | none => exact List.isSome_head?.symm

/-! ### Catalogues with the same stock -/

/-- Two catalogues have the same records and candidates, and the sources contributed the same keys
to them. -/
structure SameStock (c c' : Catalogue) : Prop where
  /-- The records are the same. -/
  registry_eq : c'.registry = c.registry
  /-- The candidates are the same. -/
  candidates_eq : c'.candidates = c.candidates
  /-- A source contributed the same keys. -/
  keysOf_eq : ∀ id, c'.keysOf id = c.keysOf id

/-- A catalogue has its stock in common with itself. -/
lemma SameStock.refl (c : Catalogue) : SameStock c c := ⟨rfl, rfl, fun _ => rfl⟩

/-- Only the records and the candidates count for resolving a key. -/
lemma resolve_congr (hr : c'.registry = c.registry) (hc : c'.candidates = c.candidates) :
    (c'.resolve key).registry = (c.resolve key).registry ∧
      (c'.resolve key).candidates = (c.resolve key).candidates := by
  have hsame : c'.candidatesOf key = c.candidatesOf key := by rw [candidatesOf, candidatesOf, hc]
  unfold resolve
  rw [hsame, hr, hc]
  split <;> exact ⟨rfl, rfl⟩

/-- Retracting reads no more than the registry and the candidates. -/
lemma retractAll_congr (hr : c'.registry = c.registry) (hc : c'.candidates = c.candidates)
    (id : String) (keys : List TokenKey) :
    (c'.retractAll id keys).registry = (c.retractAll id keys).registry ∧
      (c'.retractAll id keys).candidates = (c.retractAll id keys).candidates := by
  induction keys generalizing c c' with
  | nil => exact ⟨hr, hc⟩
  | cons key keys ih =>
    rw [retractAll_cons, retractAll_cons]
    have hstep : (c'.retract id key).registry = (c.retract id key).registry ∧
        (c'.retract id key).candidates = (c.retract id key).candidates := by
      unfold retract
      rw [hc]
      split
      · exact resolve_congr hr hc
      · exact resolve_congr hr rfl
    exact ih hstep.1 hstep.2

/-- Offering records reads no more than the registry and the candidates. -/
lemma offerAll_congr (hr : c'.registry = c.registry) (hc : c'.candidates = c.candidates)
    (id : String) (rs : List TokenRecord) :
    (c'.offerAll id rs).registry = (c.offerAll id rs).registry ∧
      (c'.offerAll id rs).candidates = (c.offerAll id rs).candidates := by
  induction rs using List.reverseRecOn with
  | nil => exact ⟨hr, hc⟩
  | append_singleton rs r ih =>
    rw [offerAll_concat, offerAll_concat, offer, offer]
    apply resolve_congr
    · rw [ih.1]
    · rw [candidatesOf, candidatesOf, ih.2]

/-- A merge decides which keys its source contributed. -/
lemma keysOf_merge (c : Catalogue) (id i : String) (rs : List TokenRecord) :
    (c.merge id rs).keysOf i
      = if id = i then (rs.map TokenRecord.key).eraseDups else c.keysOf i := by
  rw [merge_eq, keysOf, OrderedMap.get?_insert, contributed_offerAll, contributed_retractAll]
  split <;> rfl

/-- Merging the same records leaves the same stock. -/
lemma SameStock.merge (h : SameStock c c') (id : String) (rs : List TokenRecord) :
    SameStock (c.merge id rs) (c'.merge id rs) := by
  have hgone : c'.goneKeys id rs = c.goneKeys id rs := by rw [goneKeys, goneKeys, h.keysOf_eq]
  obtain ⟨hr, hc⟩ := retractAll_congr h.registry_eq h.candidates_eq id (c.goneKeys id rs)
  obtain ⟨hr, hc⟩ := offerAll_congr hr hc id rs
  refine ⟨?_, ?_, fun i => ?_⟩
  · rw [merge_eq, merge_eq, hgone]
    exact hr
  · rw [merge_eq, merge_eq, hgone]
    exact hc
  · rw [keysOf_merge, keysOf_merge, h.keysOf_eq]

/-- The trail of the second catalogue is that of the first with more records at its front. -/
def Longer (old : List TokenRecord) (c c' : Catalogue) : Prop :=
  ∃ rs, c.registry.Trail rs ∧ c'.registry.Trail (old ++ rs)

/-- Merging the same records leaves the difference of the trails. -/
lemma Longer.merge {old : List TokenRecord} (h : Longer old c c') (id : String)
    (new : List TokenRecord) : Longer old (c.merge id new) (c'.merge id new) := by
  obtain ⟨rs, hrs, hrs'⟩ := h
  refine ⟨rs ++ new, hrs.merge id new, ?_⟩
  rw [← List.append_assoc]
  exact hrs'.merge id new

/-- A source without records leaves no trace in a catalogue without records. -/
lemma sameStock_merge_nil (h : SameStock empty c) (id : String) :
    SameStock empty (c.merge id []) := by
  have hgone : c.goneKeys id [] = [] := by
    rw [goneKeys, h.keysOf_eq]
    rfl
  refine ⟨?_, ?_, fun i => ?_⟩
  · rw [merge_eq, hgone]
    exact h.registry_eq
  · rw [merge_eq, hgone]
    exact h.candidates_eq
  · rw [keysOf_merge]
    split
    · rfl
    · exact h.keysOf_eq i

end Catalogue

end DesignTokens
