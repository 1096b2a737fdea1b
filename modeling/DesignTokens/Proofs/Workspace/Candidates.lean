import DesignTokens.Proofs.Workspace.Repetition

/-!
# The table of candidates

What the sources contributed is kept twice: under each key the candidates by their sources, and
under each source the keys that it contributed.  A merge changes the two tables in separate loops,
and resolving a key removes its entry when the last candidate goes.  In every state that commands
can reach the tables mirror each other nevertheless (`Catalogue.Consistent`).

Nearly all of this is read off the latest loads, which the catalogue reflects.  They say nothing
about a key under which no candidate is left, and so that such a key has no entry is an invariant of
its own (`Catalogue.Occupied`): while a merge is under way only the key that is about to be resolved
may stand over an empty map.
-/

namespace DesignTokens

namespace Catalogue

variable {c : Catalogue} {key : TokenKey} {id : String} {r : TokenRecord}
  {latest : String → Option Load}

/-! ### No entry without candidates -/

/-- No key stands over an empty map of candidates. -/
def Occupied (c : Catalogue) : Prop :=
  ∀ key m, c.candidates.get? key = some m → m.isEmpty = false

/-- The empty catalogue has no entry. -/
lemma occupied_empty : empty.Occupied :=
  fun _ _ h => nomatch h

/-- Resolving a key is all that it takes if no other key stands over an empty map. -/
lemma occupied_resolve
    (h : ∀ k m, k ≠ key → c.candidates.get? k = some m → m.isEmpty = false) :
    (c.resolve key).Occupied := by
  intro k m hm
  unfold resolve at hm
  split at hm
  · rw [OrderedMap.get?_erase] at hm
    split at hm
    · cases hm
    · next hk => exact h k m (Ne.symm hk) hm
  · next best hbest =>
    by_cases hk : k = key
    · subst hk
      have hmap : c.candidatesOf k = m := by
        have hm' : c.candidates.get? k = some m := hm
        rw [candidatesOf, hm']
        rfl
      obtain ⟨e, he, -⟩ := List.mem_map.mp (hmap ▸ (firstRanked?_spec hbest).1 : best ∈ m.values)
      exact List.isEmpty_eq_false_iff.mpr (List.ne_nil_of_mem he)
    · exact h k m hk hm

/-- Retracting leaves no empty map behind. -/
lemma Occupied.retract (hc : c.Occupied) (id : String) (key : TokenKey) :
    (c.retract id key).Occupied := by
  unfold Catalogue.retract
  split
  · exact occupied_resolve fun k m _ hm => hc k m hm
  · refine occupied_resolve fun k m hk hm => ?_
    rw [OrderedMap.get?_insert, if_neg (Ne.symm hk)] at hm
    exact hc k m hm

/-- Offering a record leaves no empty map behind. -/
lemma Occupied.offer (hc : c.Occupied) (id : String) (r : TokenRecord) :
    (c.offer id r).Occupied := by
  refine occupied_resolve fun k m hk hm => ?_
  rw [OrderedMap.get?_insert, if_neg (Ne.symm hk)] at hm
  exact hc k m hm

/-- Retracting several keys leaves no empty map behind. -/
lemma Occupied.retractAll (hc : c.Occupied) (id : String) (keys : List TokenKey) :
    (c.retractAll id keys).Occupied := by
  induction keys generalizing c with
  | nil => exact hc
  | cons key keys ih => exact ih (hc.retract id key)

/-- Offering several records leaves no empty map behind. -/
lemma Occupied.offerAll (hc : c.Occupied) (id : String) (rs : List TokenRecord) :
    (c.offerAll id rs).Occupied := by
  induction rs generalizing c with
  | nil => exact hc
  | cons r rs ih => exact ih (hc.offer id r)

/-- A merge leaves no empty map behind. -/
lemma Occupied.merge (hc : c.Occupied) (id : String) (rs : List TokenRecord) :
    (c.merge id rs).Occupied :=
  (hc.retractAll id (c.goneKeys id rs)).offerAll id rs

/-! ### Consistent tables -/

/-- The tables of candidates and of contributed keys mirror each other, every candidate stands where
it belongs, and one of them precedes the others. -/
structure Consistent (c : Catalogue) : Prop where
  /-- A source has a candidate for the keys that it contributed. -/
  mem_iff : ∀ key id, id ∈ (c.candidatesOf key).keys ↔ key ∈ c.keysOf id
  /-- A candidate has its key and its source. -/
  belongs : ∀ key id r, (c.candidatesOf key).get? id = some r → r.key = key ∧ r.sourceId = id
  /-- No key stands over an empty map. -/
  occupied : c.Occupied
  /-- Candidates of different sources differ in precedence. -/
  precedence_ne : ∀ key id id' r r', (c.candidatesOf key).get? id = some r →
    (c.candidatesOf key).get? id' = some r' → id ≠ id' → r.precedence ≠ r'.precedence
  /-- One candidate precedes all others, and is the active record. -/
  first : ∀ key m, c.candidates.get? key = some m → ∃ id r, m.get? id = some r ∧
    c.registry.activeRecord? key.1 key.2 = some r ∧
      ∀ id' r', m.get? id' = some r' → id' ≠ id → toLex r.precedence < toLex r'.precedence

/-- A candidate ranks as the latest load of its source. -/
lemma Reflects.precedence_of_candidate (hc : c.Reflects latest)
    (h : (c.candidatesOf key).get? id = some r) : ∃ priority, r.precedence = (priority, id) := by
  rw [hc.candidate_eq, Option.bind_eq_some_iff] at h
  obtain ⟨l, hl, hlast⟩ := h
  refine ⟨l.priority, ?_⟩
  rw [hc.precedence_eq id l hl r (TokenRecord.mem_of_lastFor? hlast).1, Load.rank,
    hc.load_id id l hl]

/-- A catalogue that reflects its loads has consistent tables, unless there are entries without
candidates. -/
lemma Reflects.consistent (hc : c.Reflects latest) (hoccupied : c.Occupied) : c.Consistent := by
  have hne : ∀ key id id' r r', (c.candidatesOf key).get? id = some r →
      (c.candidatesOf key).get? id' = some r' → id ≠ id' → r.precedence ≠ r'.precedence := by
    intro key id id' r r' hr hr' hid heq
    obtain ⟨p, hp⟩ := hc.precedence_of_candidate hr
    obtain ⟨p', hp'⟩ := hc.precedence_of_candidate hr'
    rw [hp, hp'] at heq
    exact hid (congrArg Prod.snd heq)
  refine ⟨fun key id => ?_, fun key id r hr => ⟨hc.settled.key_of_candidate hr, ?_⟩, hoccupied,
    hne, fun key m hm => ?_⟩
  · rw [OrderedMap.mem_keys_iff, hc.mem_keysOf]
    simp only [hc.candidate_eq, Option.bind_eq_some_iff]
    constructor
    · rintro ⟨r, l, hl, hlast⟩
      exact ⟨l, hl, r, TokenRecord.mem_of_lastFor? hlast⟩
    · rintro ⟨l, hl, hproduces⟩
      obtain ⟨r, hlast⟩ := TokenRecord.exists_lastFor? hproduces
      exact ⟨r, l, hl, hlast⟩
  · obtain ⟨p, hp⟩ := hc.precedence_of_candidate hr
    exact congrArg Prod.snd hp
  · have hmap : c.candidatesOf key = m := by
      rw [candidatesOf, hm]
      rfl
    -- An occupied map has a least candidate, and no other one is of the same precedence.
    obtain ⟨best, hbest⟩ : ∃ best, firstRanked? m.values = some best := by
      rw [← Option.ne_none_iff_exists', Ne, firstRanked?_eq_none_iff]
      intro hnone
      have hsome := hoccupied key m hm
      rw [OrderedMap.eq_empty_of_values hnone] at hsome
      cases hsome
    obtain ⟨hmem, hle⟩ := firstRanked?_spec hbest
    obtain ⟨id, hid⟩ := OrderedMap.mem_values_iff.mp hmem
    refine ⟨id, best, hid, ?_, fun id' r' hr' hid' => lt_of_le_of_ne (hle r' ?_) fun heq => ?_⟩
    · rw [hc.settled.active_eq, hmap, hbest]
    · exact OrderedMap.mem_values_iff.mpr ⟨id', hr'⟩
    · rw [← hmap] at hid hr'
      exact hne key id id' best r' hid hr' (Ne.symm hid') (toLex.injective heq)

end Catalogue

/-- In every state that commands can reach, a source is among the candidates of a key exactly if the
key is among those that it contributed; every candidate has the key and the source under which it
stands; no key stands over an empty map; and the candidates of a key differ in precedence, so that a
single one comes first. -/
theorem Workspace.consistent_afterCommands (files : FileTree) (place : DatasetPlace)
    (watching : Bool) (cs : List Command) :
    ((new files place watching).afterCommands cs).catalogue.Consistent :=
  ((tracks_new files place watching).afterCommands cs).reflects.consistent
    (holds_afterCommands Catalogue.occupied_empty (fun _ id rs hc => hc.merge id rs) files place
      watching cs)

end DesignTokens
