import DesignTokens.Proofs.Catalogue.Trail
import DesignTokens.Registry.Search

/-!
# Merging the same records again

A merge replaces the candidates of its source one by one, and each time picks the active record of
the key anew.  When the source gives what it gave last, the candidates are back in the end, but in
between another record may have been active: a source may have two records for one key, and the
first of them is offered before the second.

What the indices list must come back with its order.  Each index keeps the place of a key to which
it assigns again, so its order is safe as long as no key leaves it (`Registry.SameKeys`).  A key
would leave the bucket of its category if a record of another category became active.  This is
excluded where the name of a record decides its category (`Catalogue.Named`), and with the active
records at the end being those of the beginning, the indices are the same
(`Catalogue.Named.repeat_merge`).

A merge does leave a trace, since it registers the records once more.  All of them are for names
that have records, so they stand behind what was registered before, and whoever reads active records
does not see them (`Catalogue.Standing.merge`).
-/

namespace DesignTokens

namespace OrderedMap

variable {α β : Type} [DecidableEq α]

/-- Assigning to a key that is present keeps the keys. -/
lemma keys_insert_of_mem {m : OrderedMap α β} {a : α} (h : a ∈ m.keys) (b : β) :
    (m.insert a b).keys = m.keys := by
  rw [keys_insert, if_pos h]

end OrderedMap

/-! ### Indices that list the same -/

namespace Registry

variable {g g' g'' : Registry} {r s : TokenRecord}

/-- Two registries list the same keys in the same order, under each theme and in each category. -/
structure SameKeys (g g' : Registry) : Prop where
  /-- A theme has the same names. -/
  active : ∀ t, (g'.active t).keys = (g.active t).keys
  /-- A category has the same keys. -/
  bucket : ∀ c, (g'.bucket c).keys = (g.bucket c).keys

/-- A registry lists the same keys as itself. -/
lemma SameKeys.refl (g : Registry) : g.SameKeys g := ⟨fun _ => rfl, fun _ => rfl⟩

/-- Listing the same keys is transitive. -/
lemma SameKeys.trans (h : g.SameKeys g') (h' : g'.SameKeys g'') : g.SameKeys g'' :=
  ⟨fun t => (h'.active t).trans (h.active t), fun c => (h'.bucket c).trans (h.bucket c)⟩

/-- Two registries have the same active records, under each theme and in each category. -/
structure SameActive (g g' : Registry) : Prop where
  /-- The active records of a theme are the same, in the same order. -/
  active : ∀ t, g'.active t = g.active t
  /-- The active records of a category are the same, in the same order. -/
  bucket : ∀ c, g'.bucket c = g.bucket c

/-- The keys and the active records decide the indices. -/
lemma SameKeys.sameActive (h : g.SameKeys g') (hg : g.Consistent) (hg' : g'.Consistent)
    (hactive : ∀ name t, g'.activeRecord? name t = g.activeRecord? name t) : g.SameActive g' where
  active := fun t => OrderedMap.ext_get? (h.active t) fun name => hactive name t
  bucket := by
    intro c
    refine OrderedMap.ext_get? (h.bucket c) fun key => Option.ext fun r => ?_
    rw [hg'.mem_bucket, hg.mem_bucket, hactive]

/-- Setting the active records of a theme changes those of this theme only. -/
lemma active_setActive (g : Registry) (theme t : Theme) (m : OrderedMap String TokenRecord) :
    (g.setActive theme m).active t = if t = theme then m else g.active t := by
  cases theme <;> cases t <;> rfl

/-- A record that displaces one of its category takes its places. -/
lemma sameKeys_activate (hg : g.Consistent) (hactive : g.activeRecord? r.name r.theme = some s)
    (hcategory : s.category = r.category) : g.SameKeys (g.activate r) := by
  have hvacate : g.vacate r = g := by
    rw [vacate, hactive]
    exact if_pos hcategory
  have hname : r.name ∈ (g.active r.theme).keys := OrderedMap.mem_keys_iff.mpr ⟨s, hactive⟩
  have hkey : r.key ∈ (g.bucket r.category).keys :=
    OrderedMap.mem_keys_iff.mpr ⟨s, hg.mem_bucket.mpr ⟨hactive, hcategory⟩⟩
  rw [activate_eq_vacate, hvacate]
  refine ⟨fun t => ?_, fun c => ?_⟩
  · rw [active_setBucket, active_setActive]
    split
    · next ht =>
      subst ht
      exact OrderedMap.keys_insert_of_mem hname r
    · rfl
  · rw [bucket_setBucket]
    split
    · next hc =>
      subst hc
      exact OrderedMap.keys_insert_of_mem hkey r
    · rw [bucket_setActive]

/-- The audit trail is no part of the indices, so a record in it changes no keys. -/
lemma sameKeys_record (g : Registry) (r : TokenRecord) : g.SameKeys (g.record r) :=
  ⟨fun t => by cases t <;> rfl, fun _ => rfl⟩

/-- Whoever reads active records reads the same in two registries, and all that the second one may
have more is records behind those of the first in the audit trail. -/
structure SameReads (g g' : Registry) : Prop where
  /-- A theme lists the same records in the same order. -/
  ofTheme_eq : ∀ t, g'.ofTheme t = g.ofTheme t
  /-- A category lists the same records in the same order. -/
  ofCategory_eq : ∀ c, g'.ofCategory c = g.ofCategory c
  /-- A name has the same record, under a theme and without one. -/
  get?_eq : ∀ name t, g'.get? name t = g.get? name t
  /-- A search of a theme finds the same records in the same order. -/
  search_eq : ∀ keyword t, g'.search keyword (some t) = g.search keyword (some t)
  /-- The records that were registered for a name come first. -/
  getAll_prefix : ∀ name, g.getAll name <+: g'.getAll name
  /-- The registered names are the same, in the same order. -/
  names_eq : g'.names = g.names

/-- A registry reads the same as itself. -/
lemma SameReads.refl (g : Registry) : g.SameReads g :=
  ⟨fun _ => rfl, fun _ => rfl, fun _ _ => rfl, fun _ _ => rfl, fun _ => List.prefix_rfl, rfl⟩

/-- Reading the same is transitive. -/
lemma SameReads.trans (h : g.SameReads g') (h' : g'.SameReads g'') : g.SameReads g'' where
  ofTheme_eq := fun t => (h'.ofTheme_eq t).trans (h.ofTheme_eq t)
  ofCategory_eq := fun c => (h'.ofCategory_eq c).trans (h.ofCategory_eq c)
  get?_eq := fun name t => (h'.get?_eq name t).trans (h.get?_eq name t)
  search_eq := fun keyword t => (h'.search_eq keyword t).trans (h.search_eq keyword t)
  getAll_prefix := fun name => (h.getAll_prefix name).trans (h'.getAll_prefix name)
  names_eq := h'.names_eq.trans h.names_eq

/-- Records that are registered for names that have records change no read of active ones. -/
lemma SameActive.sameReads {rs new : List TokenRecord} (h : g.SameActive g') (hg : g.Trail rs)
    (hg' : g'.Trail (rs ++ new)) (hnames : ∀ r ∈ new, ∃ s ∈ rs, s.name = r.name) :
    g.SameReads g' := by
  have hgetAll : ∀ name, g'.getAll name
      = g.getAll name ++ new.filter fun r => r.name = name := by
    intro name
    rw [hg'.getAll_eq, hg.getAll_eq, List.filter_append]
  -- A read without a theme may end at the first record of the name; new ones come behind it.
  have hhead : ∀ name, (g'.getAll name).head? = (g.getAll name).head? := by
    intro name
    cases hnone : g.getAll name with
    | cons r _ => rw [hgetAll, hnone, List.cons_append, List.head?_cons, List.head?_cons]
    | nil =>
      rw [hgetAll, hnone, List.nil_append, List.filter_eq_nil_iff.mpr]
      intro r hr hname
      obtain ⟨s, hs, hsame⟩ := hnames r hr
      have hmem : s ∈ g.getAll name := by
        rw [hg.getAll_eq]
        exact List.mem_filter.mpr ⟨hs, decide_eq_true (hsame.trans (of_decide_eq_true hname))⟩
      rw [hnone] at hmem
      cases hmem
  have hactive : ∀ name t, g'.activeRecord? name t = g.activeRecord? name t := by
    intro name t
    rw [activeRecord?, activeRecord?, h.active]
  have htheme : ∀ t, g'.ofTheme t = g.ofTheme t := fun t => by rw [ofTheme, ofTheme, h.active]
  refine ⟨htheme, fun c => by rw [ofCategory, ofCategory, h.bucket], ?_, ?_, ?_, ?_⟩
  · intro name t
    cases t with
    | some t => exact hactive name t
    | none => rw [get?, get?, hactive, hactive, hhead]
  · intro keyword t
    rw [search, search, candidates, candidates, htheme]
  · intro name
    rw [hgetAll]
    exact List.prefix_append _ _
  · rw [hg'.names_eq, hg.names_eq, distinctNames, distinctNames, List.map_append,
      List.eraseDups_append]
    have hold : (new.map TokenRecord.name).removeAll (rs.map TokenRecord.name) = [] := by
      rw [List.removeAll, List.filter_eq_nil_iff]
      intro name hname
      obtain ⟨r, hr, rfl⟩ := List.mem_map.mp hname
      obtain ⟨s, hs, hsame⟩ := hnames r hr
      have hmem : r.name ∈ rs.map TokenRecord.name := List.mem_map.mpr ⟨s, hs, hsame⟩
      simpa using hmem
    rw [hold, List.eraseDups_nil, List.append_nil]

/-! ### What a merge keeps consistent -/

variable {c : Catalogue}

/-- Picking the active record of a key keeps the indices in agreement. -/
lemma Consistent.resolve (hc : c.registry.Consistent) (key : TokenKey) :
    (c.resolve key).registry.Consistent := by
  unfold Catalogue.resolve
  split
  · exact hc.deactivate key.1 key.2
  · exact hc.activate _

/-- Offering a record keeps the indices in agreement. -/
lemma Consistent.offer (hc : c.registry.Consistent) (id : String) (r : TokenRecord) :
    (c.offer id r).registry.Consistent :=
  Consistent.resolve (hc.record r) r.key

/-- A merge keeps the indices in agreement. -/
lemma Consistent.merge (hc : c.registry.Consistent) (id : String) (rs : List TokenRecord) :
    (c.merge id rs).registry.Consistent := by
  have hretract : ∀ (keys : List TokenKey) (c : Catalogue), c.registry.Consistent →
      (c.retractAll id keys).registry.Consistent := by
    intro keys
    induction keys with
    | nil => exact fun _ hc => hc
    | cons key keys ih =>
      intro c hc
      rw [Catalogue.retractAll_cons]
      apply ih
      unfold Catalogue.retract
      split
      · exact hc.resolve key
      · apply Consistent.resolve
        exact hc
  have hoffer : ∀ (rs : List TokenRecord) (c : Catalogue), c.registry.Consistent →
      (c.offerAll id rs).registry.Consistent := by
    intro rs
    induction rs with
    | nil => exact fun _ hc => hc
    | cons r rs ih => exact fun c hc => ih _ (hc.offer id r)
  exact hoffer rs _ (hretract _ c hc)

end Registry

namespace Catalogue

variable {c : Catalogue} {key : TokenKey} {id : String} {r : TokenRecord} {rs : List TokenRecord}
  {latest : String → Option Load} {l : Load}

/-! ### Names that decide categories -/

/-- The active records are the first candidates, the indices agree on them, and the category of a
candidate is the one that its name has. -/
structure Named (c : Catalogue) : Prop where
  /-- The active records are the first candidates. -/
  settled : c.Settled
  /-- The indices agree on the active records. -/
  consistent : c.registry.Consistent
  /-- A candidate is of the category of its name. -/
  category_eq : ∀ {key id r}, (c.candidatesOf key).get? id = some r →
    r.category = Category.ofName r.name

/-- In the empty catalogue every record is of the category of its name. -/
lemma named_empty : empty.Named where
  settled := settled_empty
  consistent := Registry.consistent_empty
  category_eq := by
    intro key id r h
    cases h

/-- Offering a record of the category of its name keeps a catalogue so. -/
lemma Named.offer (hc : c.Named) (id : String) (hr : r.category = Category.ofName r.name) :
    (c.offer id r).Named where
  settled := hc.settled.offer id r
  consistent := hc.consistent.offer id r
  category_eq := by
    intro key i s h
    rw [candidatesOf_offer] at h
    split at h
    · rw [OrderedMap.get?_insert] at h
      split at h
      · cases h
        exact hr
      · exact hc.category_eq h
    · exact hc.category_eq h

/-- Merging records of the categories of their names keeps the catalogue so. -/
lemma Named.merge (hc : c.Named) (id : String)
    (hrs : ∀ r ∈ rs, r.category = Category.ofName r.name) : (c.merge id rs).Named where
  settled := hc.settled.merge id rs
  consistent := hc.consistent.merge id rs
  category_eq := by
    intro key i s h
    have hmerge : (c.merge id rs).candidatesOf key
        = ((c.retractAll id (c.goneKeys id rs)).offerAll id rs).candidatesOf key := rfl
    have hold : ∀ {s}, ((c.retractAll id (c.goneKeys id rs)).candidatesOf key).get? i = some s →
        s.category = Category.ofName s.name := by
      intro s hs
      rw [get?_candidatesOf_retractAll] at hs
      split at hs
      · cases hs
      · exact hc.category_eq hs
    rw [hmerge, get?_candidatesOf_offerAll] at h
    split at h
    · rcases Option.or_eq_some_iff.mp h with hlast | ⟨-, hs⟩
      · exact hrs s (TokenRecord.mem_of_lastFor? hlast).1
      · exact hold hs
    · exact hold h

/-- The first candidate of a key is a record for the key, of the category of its name. -/
lemma Named.of_firstRanked? (hc : c.Named) (h : firstRanked? (c.candidatesOf key).values = some r) :
    r.key = key ∧ r.category = Category.ofName key.1 := by
  obtain ⟨id, hid⟩ := OrderedMap.mem_values_iff.mp (firstRanked?_spec h).1
  have hkey : r.key = key := hc.settled.key_of_candidate hid
  refine ⟨hkey, ?_⟩
  rw [hc.category_eq hid, ← hkey]
  rfl

/-! ### Offering what is there -/

/-- A key with candidates has a first one. -/
lemma exists_firstRanked? {m : OrderedMap String TokenRecord} (h : id ∈ m.keys) :
    ∃ r, firstRanked? m.values = some r := by
  obtain ⟨r, hr⟩ := OrderedMap.mem_keys_iff.mp h
  rw [← Option.ne_none_iff_exists', ne_eq, firstRanked?_eq_none_iff]
  exact List.ne_nil_of_mem (OrderedMap.mem_values_iff.mpr ⟨id, hr⟩)

/-- The record that is active once a record was offered. -/
lemma registry_offer {best : TokenRecord}
    (hbest : firstRanked? ((c.offer id r).candidatesOf r.key).values = some best) :
    (c.offer id r).registry = (c.registry.record r).activate best := by
  rw [offer, candidatesOf_resolve] at hbest
  rw [offer, resolve, hbest]

/-- A record that replaces the candidate of its source takes the place of that one, and whatever is
active then takes the places of what was active. -/
lemma Named.sameKeys_offer (hc : c.Named) (hr : r.category = Category.ofName r.name)
    (hthere : id ∈ (c.candidatesOf r.key).keys) :
    c.registry.SameKeys (c.offer id r).registry ∧
      ∀ key, ((c.offer id r).candidatesOf key).keys = (c.candidatesOf key).keys := by
  have hkeys : ∀ key, ((c.offer id r).candidatesOf key).keys = (c.candidatesOf key).keys := by
    intro key
    rw [candidatesOf_offer]
    split
    · next hkey =>
      subst hkey
      exact OrderedMap.keys_insert_of_mem hthere r
    · rfl
  refine ⟨?_, hkeys⟩
  obtain ⟨previous, hprevious⟩ := exists_firstRanked? hthere
  obtain ⟨best, hbest⟩ := exists_firstRanked? ((hkeys r.key).symm ▸ hthere)
  obtain ⟨hkey, hcategory⟩ := (hc.offer id hr).of_firstRanked? hbest
  have hactive : (c.registry.record r).activeRecord? best.name best.theme = some previous := by
    rw [Registry.activeRecord?_record, ← hprevious, ← hc.settled.active_eq, ← hkey]
    rfl
  rw [registry_offer hbest]
  refine (Registry.sameKeys_record _ r).trans
    (Registry.sameKeys_activate (hc.consistent.record r) hactive ?_)
  rw [hcategory, (hc.of_firstRanked? hprevious).2]

/-- Offering records for keys for which the source has candidates keeps all keys in their places. -/
lemma Named.sameKeys_offerAll (hc : c.Named)
    (hrs : ∀ r ∈ rs, r.category = Category.ofName r.name ∧ id ∈ (c.candidatesOf r.key).keys) :
    c.registry.SameKeys (c.offerAll id rs).registry ∧
      ∀ key, ((c.offerAll id rs).candidatesOf key).keys = (c.candidatesOf key).keys := by
  induction rs generalizing c with
  | nil => exact ⟨.refl _, fun _ => rfl⟩
  | cons r rs ih =>
    rw [List.forall_mem_cons] at hrs
    obtain ⟨⟨hr, hthere⟩, hrs⟩ := hrs
    obtain ⟨hregistry, hkeys⟩ := hc.sameKeys_offer hr hthere
    obtain ⟨hregistry', hkeys'⟩ := ih (hc.offer id hr) fun s hs => by
      rw [hkeys]
      exact hrs s hs
    exact ⟨hregistry.trans hregistry', fun key => (hkeys' key).trans (hkeys key)⟩

/-! ### Merging the latest load again -/

/-- When a source gives the records of its latest load again, they become its latest load, and
nothing changes that is active or a candidate. -/
theorem Named.repeat_merge (hc : c.Named) (hlatest : c.Reflects latest) (hl : latest id = some l)
    (hrs : ∀ r ∈ l.records, r.category = Category.ofName r.name) :
    c.registry.SameActive (c.merge id l.records).registry ∧
      ∀ key, (c.merge id l.records).candidatesOf key = c.candidatesOf key := by
  -- Every key of the source is given again, so that nothing is withdrawn.
  have hgone : c.goneKeys id l.records = [] := by
    rw [List.eq_nil_iff_forall_not_mem]
    intro key hkey
    obtain ⟨hold, hnone⟩ := mem_goneKeys.mp hkey
    obtain ⟨l', hl', r, hr, hrkey⟩ := (hlatest.mem_keysOf key id).mp hold
    cases hl.symm.trans hl'
    exact hnone r hr hrkey
  have hthere : ∀ r ∈ l.records, id ∈ (c.candidatesOf r.key).keys := by
    intro r hr
    obtain ⟨s, hs⟩ := TokenRecord.exists_lastFor? ⟨r, hr, rfl⟩
    refine OrderedMap.mem_keys_iff.mpr ⟨s, ?_⟩
    rw [hlatest.candidate_eq, hl]
    exact hs
  obtain ⟨hregistry, hkeys⟩ := hc.sameKeys_offerAll fun r hr => ⟨hrs r hr, hthere r hr⟩
  have hmerge : (c.merge id l.records).registry = (c.offerAll id l.records).registry ∧
      ∀ key, (c.merge id l.records).candidatesOf key
        = (c.offerAll id l.records).candidatesOf key := by
    rw [merge_eq, hgone]
    exact ⟨rfl, fun _ => rfl⟩
  have hcandidates : ∀ key, (c.merge id l.records).candidatesOf key = c.candidatesOf key := by
    intro key
    refine OrderedMap.ext_get? (by rw [hmerge.2, hkeys]) fun i => ?_
    rw [get?_candidatesOf_merge]
    · split
      · next hi =>
        rw [hi, hlatest.candidate_eq, hl]
        rfl
      · rfl
    · intro key r hr
      rw [hlatest.candidate_eq, hl] at hr
      exact (hlatest.mem_keysOf key id).mpr ⟨l, hl, r, TokenRecord.mem_of_lastFor? hr⟩
  refine ⟨Registry.SameKeys.sameActive (hmerge.1 ▸ hregistry) hc.consistent
    (hc.consistent.merge id l.records) fun name t => ?_, hcandidates⟩
  have hsettled := hc.settled.merge id l.records
  rw [hsettled.active_eq (name, t), hc.settled.active_eq (name, t), hcandidates]

/-- The catalogue is what the latest loads say, whose records are `gave`, and all its candidates are
registered. -/
structure Standing (c : Catalogue) (gave : String → Option (List TokenRecord)) : Prop where
  /-- Names decide the categories of the candidates. -/
  named : c.Named
  /-- Loads of these records are the latest ones. -/
  reflects : ∃ latest, c.Reflects latest ∧ ∀ id, (latest id).map Load.records = gave id
  /-- Candidates are in the audit trail. -/
  registered : ∃ rs, c.Registered rs

/-- Merging what a source gave last leaves everything standing, and no read of active records tells
the catalogues apart. -/
theorem Standing.merge {gave : String → Option (List TokenRecord)} (hc : c.Standing gave) (l : Load)
    (hgave : gave l.id = some l.records) (hrank : ∀ r ∈ l.records, r.precedence = l.rank)
    (hrs : ∀ r ∈ l.records, r.category = Category.ofName r.name) :
    (c.merge l.id l.records).Standing gave ∧
      c.registry.SameReads (c.merge l.id l.records).registry := by
  obtain ⟨latest, hlatest, hrecords⟩ := hc.reflects
  obtain ⟨registered, hregistered⟩ := hc.registered
  obtain ⟨l', hl', hsame⟩ : ∃ l', latest l.id = some l' ∧ l'.records = l.records := by
    have hlast := hrecords l.id
    rwa [hgave, Option.map_eq_some_iff] at hlast
  refine ⟨⟨hc.named.merge l.id hrs, ⟨_, hlatest.merge l hrank, fun id => ?_⟩,
    _, hregistered.merge l.id l.records⟩, ?_⟩
  · rw [Function.update_apply]
    split
    · next hid => rw [hid, hgave, Option.map_some]
    · exact hrecords id
  · obtain ⟨hactive, -⟩ := hc.named.repeat_merge hlatest hl' (hsame.symm ▸ hrs)
    rw [hsame] at hactive
    refine hactive.sameReads hregistered.trail (hregistered.merge l.id l.records).trail ?_
    intro r hr
    have hproduces : l'.Produces r.key := ⟨r, hsame.symm ▸ hr, rfl⟩
    obtain ⟨s, hs⟩ := TokenRecord.exists_lastFor? hproduces
    have hcandidate : (c.candidatesOf r.key).get? l.id = some s := by
      rw [hlatest.candidate_eq, hl']
      exact hs
    exact ⟨s, hregistered.mem_of_candidate hcandidate,
      congrArg Prod.fst (hc.named.settled.key_of_candidate hcandidate)⟩

end Catalogue

end DesignTokens
