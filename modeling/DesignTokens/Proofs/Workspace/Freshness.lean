import DesignTokens.Proofs.Workspace.Loading

/-!
# Fresh sources

A source is fresh if its candidates are the last records of what it gives now, or if it gives
nothing now.  It becomes fresh when it is loaded, and loads of other sources leave it fresh
(`fresh_of_stockEach`).  A source with a file stays fresh as long as the text of the file stays the
same (`Fresh.setFiles`).
-/

namespace DesignTokens

namespace Catalogue

variable {c : Catalogue} {l l' : Load}

/-- A source has candidates only for the keys that it contributed. -/
def Keyed (c : Catalogue) : Prop :=
  ∀ id key r, (c.candidatesOf key).get? id = some r → key ∈ c.keysOf id

/-- The empty catalogue has no candidates. -/
lemma keyed_empty : empty.Keyed := by
  intro id key r h
  cases h

/-- After a merge there are candidates only for contributed keys, if it was so before. -/
lemma Keyed.merge (hc : c.Keyed) (id : String) (rs : List TokenRecord) : (c.merge id rs).Keyed := by
  intro i key r h
  rw [get?_candidatesOf_merge (hc id)] at h
  rw [mem_keysOf_merge]
  split at h
  · next hi =>
    rw [if_pos hi]
    exact ⟨r, TokenRecord.mem_of_lastFor? h⟩
  · next hi =>
    rw [if_neg hi]
    exact hc i key r h

/-- The candidates of the source of a load are the last records of the load. -/
def Shows (c : Catalogue) (l : Load) : Prop :=
  ∀ key, (c.candidatesOf key).get? l.id = TokenRecord.lastFor? key l.records

/-- A merge shows its load. -/
lemma Keyed.shows_merge (hc : c.Keyed) (l : Load) : (c.merge l.id l.records).Shows l := by
  intro key
  rw [get?_candidatesOf_merge (hc l.id), if_pos rfl]

/-- Loads of other sources leave what is shown. -/
lemma Shows.merge (h : c.Shows l) (hc : c.Keyed) (hl : l'.id = l.id → l' = l) :
    (c.merge l'.id l'.records).Shows l := by
  by_cases hid : l'.id = l.id
  · rw [hl hid]
    exact hc.shows_merge l
  · intro key
    rw [get?_candidatesOf_merge (hc l'.id), if_neg (Ne.symm hid)]
    exact h key

end Catalogue

namespace Source

variable {s : Source} {f f' : FileTree} {p : Path}

/-- The watched file of a source is its file. -/
lemma path?_of_watched (hp : s.watched? = some p) : s.path? = some p := by
  unfold watched? at hp
  split at hp
  · cases hp
  · split at hp
    · exact hp
    · cases hp

/-- What a watched source gives depends only on the text of its file. -/
lemma load_congr (hp : s.watched? = some p) (h : f'.readText p = f.readText p) :
    s.load f' = s.load f := by
  have hcontent : s.content f' = s.content f := by
    rw [content, content, path?_of_watched hp]
    dsimp only
    rw [h]
  cases hreader : s.reader with
  | dataset place =>
    rw [watched?, hreader] at hp
    cases hp
  | plain => rw [load, load, hreader]
  | stylesheet => rw [load, load, hreader, hcontent]
  | script => rw [load, load, hreader, hcontent]

end Source

namespace Workspace

variable {w w' : Workspace} {id : String} {c : Catalogue} {ids : List String}

/-- The candidates of a source are the last records of what it gives now, if it gives anything. -/
def Fresh (w : Workspace) (id : String) : Prop :=
  ∀ l, w.loadOf? id = some l → w.catalogue.Shows l

/-- Loading sources one after another makes them fresh and leaves the others so. -/
lemma shows_stockEach {l : Load} (hc : c.Keyed) (hl : w.loadOf? id = some l)
    (h : id ∈ ids ∨ c.Shows l) : (w.stockEach c ids).Shows l := by
  induction ids generalizing c with
  | nil => exact h.resolve_left List.not_mem_nil
  | cons id' ids ih =>
    rw [stockEach_cons]
    refine ih (holds_stock (fun _ hc => hc.merge _ _) hc w id') ?_
    by_cases hid : id' = id
    · rw [hid, hl]
      exact Or.inr (hc.shows_merge l)
    · rw [List.mem_cons, or_iff_right (Ne.symm hid)] at h
      refine h.imp_right fun hshows => ?_
      cases hl' : w.loadOf? id' with
      | none => exact hshows
      | some l' =>
        refine hshows.merge hc fun heq => absurd ?_ hid
        rw [← id_of_loadOf? hl', heq, id_of_loadOf? hl]

/-- Where nothing but loads happens, from a catalogue in which a source was fresh, or with a load of
it, the source is fresh afterwards. -/
lemma fresh_of_stockEach (hs : w.Stocked w') (hcatalogue : w'.catalogue = w.stockEach c ids)
    (hc : c.Keyed) (h : id ∈ ids ∨ ∀ l, w.loadOf? id = some l → c.Shows l) : w'.Fresh id := by
  intro l hl
  rw [hs.loadOf?_eq] at hl
  rw [hcatalogue]
  exact shows_stockEach hc hl (h.imp_right fun hshows => hshows l hl)

/-- Whether a source is fresh depends on the files, the source and the catalogue only. -/
lemma Fresh.of_eq (h : w.Fresh id) (hfiles : w'.files = w.files)
    (hsource : w'.source? id = w.source? id) (hcatalogue : w'.catalogue = w.catalogue) :
    w'.Fresh id := by
  intro l hl
  rw [loadOf?_congr hfiles hsource] at hl
  rw [hcatalogue]
  exact h l hl

/-- A watched source stays fresh when other files change. -/
lemma Fresh.setFiles (h : w.Fresh id) {a : Attachment} {p : Path} {files : FileTree}
    (ha : w.sources.get? id = some a) (hp : a.source.watched? = some p)
    (hsame : files.readText p = w.files.readText p) :
    ({ w with files } : Workspace).Fresh id := by
  intro l hl
  refine h l ?_
  rw [loadOf?, source?, ha, Option.map_some, Option.bind_some] at hl ⊢
  rw [← Source.load_congr hp hsame]
  exact hl

end Workspace

end DesignTokens
