import DesignTokens.OrderedMap
import DesignTokens.Proofs.History
import Mathlib.Data.List.Induction
import Mathlib.Data.List.Nodup

/-!
# Reading ordered maps

An ordered map is determined by two views: the look-up `get?`, and the list `keys`.  This file
says what assignments, removals and whole lists of assignments do to both, and how the lists of
entries and of values are read off them.

The last section is about lists of assignments.  Assigning `es` one after another is the same as
assigning the entries of the map that `es` defines (`insertMany_entries_ofList`): what a list of
assignments does to a map depends on its last value for each key and on the order in which keys
come first, and a map keeps exactly that.
-/

namespace DesignTokens

namespace OrderedMap

variable {α β : Type} [DecidableEq α]

/-! ### Look-up, entries and values -/

/-- Nothing is found in the empty map. -/
@[simp] lemma get?_empty (a : α) : (empty : OrderedMap α β).get? a = none := rfl

omit [DecidableEq α] in
/-- The empty map has no key. -/
@[simp] lemma keys_empty : (empty : OrderedMap α β).keys = [] := rfl

/-- A look-up finds only entries of the list. -/
lemma mem_of_lookupEntry {a : α} {b : β} {es : List (α × β)} (h : lookupEntry a es = some b) :
    (a, b) ∈ es := by
  induction es with
  | nil => simp [lookupEntry] at h
  | cons e es ih =>
    obtain ⟨k, v⟩ := e
    by_cases hk : k = a
    · simp only [lookupEntry, hk, if_true, Option.some.injEq] at h
      simp [hk, h]
    · simp only [lookupEntry, hk, if_false] at h
      exact List.mem_cons_of_mem _ (ih h)

/-- With different keys, every entry of the list is found by a look-up. -/
lemma lookupEntry_of_mem {a : α} {b : β} {es : List (α × β)} (hes : (es.map Prod.fst).Nodup)
    (h : (a, b) ∈ es) : lookupEntry a es = some b := by
  induction es with
  | nil => simp at h
  | cons e es ih =>
    obtain ⟨k, v⟩ := e
    rw [List.map_cons, List.nodup_cons] at hes
    rcases List.mem_cons.mp h with heq | hmem
    · obtain ⟨rfl, rfl⟩ := Prod.mk.inj heq
      simp [lookupEntry]
    · have hne : k ≠ a := by
        rintro rfl
        exact hes.1 (List.mem_map.mpr ⟨(k, b), hmem, rfl⟩)
      rw [lookupEntry, if_neg hne]
      exact ih hes.2 hmem

/-- Looking a key up among changed values changes what is found. -/
lemma lookupEntry_map {γ : Type} (g : β → γ) (a : α) (es : List (α × β)) :
    lookupEntry a (es.map fun e => (e.1, g e.2)) = (lookupEntry a es).map g := by
  induction es with
  | nil => rfl
  | cons e es ih =>
    rw [List.map_cons, lookupEntry, lookupEntry, ih]
    split <;> rfl

/-- The entries of a map are the pairs that look-ups find. -/
lemma mem_entries_iff {m : OrderedMap α β} {a : α} {b : β} :
    (a, b) ∈ m.entries ↔ m.get? a = some b :=
  ⟨lookupEntry_of_mem m.nodup_keys, mem_of_lookupEntry⟩

/-- The values of a map are what look-ups find. -/
lemma mem_values_iff {m : OrderedMap α β} {b : β} : b ∈ m.values ↔ ∃ a, m.get? a = some b := by
  constructor
  · intro h
    obtain ⟨⟨a, b'⟩, he, rfl⟩ := List.mem_map.mp h
    exact ⟨a, mem_entries_iff.mp he⟩
  · rintro ⟨a, h⟩
    exact List.mem_map.mpr ⟨(a, b), mem_entries_iff.mpr h, rfl⟩

/-- The keys of a map are those under which a look-up finds something. -/
lemma mem_keys_iff {m : OrderedMap α β} {a : α} : a ∈ m.keys ↔ ∃ b, m.get? a = some b := by
  constructor
  · intro h
    obtain ⟨⟨a', b⟩, he, rfl⟩ := List.mem_map.mp h
    exact ⟨b, mem_entries_iff.mp he⟩
  · rintro ⟨b, h⟩
    exact List.mem_map.mpr ⟨(a, b), mem_entries_iff.mpr h, rfl⟩

/-- A map contains what it lists among its keys. -/
lemma contains_iff {m : OrderedMap α β} {a : α} : m.contains a = true ↔ a ∈ m.keys := by
  rw [contains, Option.isSome_iff_exists, mem_keys_iff]

omit [DecidableEq α] in
/-- A map without values has no entries. -/
lemma eq_empty_of_values {m : OrderedMap α β} (h : m.values = []) : m = empty :=
  ext_entries (List.map_eq_nil_iff.mp h)

/-- The entries are the keys, each with what the look-up finds. -/
lemma entries_eq_filterMap (m : OrderedMap α β) :
    m.entries = m.keys.filterMap fun a => (m.get? a).map fun b => (a, b) := by
  have hfound : ∀ e ∈ m.entries, (m.get? e.1).map (fun b => (e.1, b)) = some e := by
    rintro ⟨a, b⟩ he
    rw [mem_entries_iff.mp he]
    rfl
  rw [keys, List.filterMap_map]
  calc m.entries = m.entries.filterMap some := (List.filterMap_some).symm
    _ = _ := List.filterMap_congr fun e he => (hfound e he).symm

/-- Maps with the same keys in the same order and the same look-ups are equal. -/
lemma ext_get? {m n : OrderedMap α β} (hkeys : m.keys = n.keys)
    (hget : ∀ a, m.get? a = n.get? a) : m = n := by
  apply ext_entries
  rw [entries_eq_filterMap m, entries_eq_filterMap n, hkeys]
  simp only [hget]

/-! ### Assignments and removals -/

/-- An assignment keeps the order of the keys, with a new key at the end. -/
lemma map_fst_assignEntry {a : α} {b : β} {es : List (α × β)} :
    (assignEntry a b es).map Prod.fst
      = if a ∈ es.map Prod.fst then es.map Prod.fst else es.map Prod.fst ++ [a] := by
  induction es with
  | nil => simp [assignEntry]
  | cons e es ih =>
    obtain ⟨k, v⟩ := e
    by_cases hk : k = a
    · simp [assignEntry, hk]
    · simp only [assignEntry, hk, if_false, List.map_cons, ih, List.mem_cons, Ne.symm hk, false_or]
      split <;> rfl

/-- An assignment keeps the keys, with a new key at the end. -/
lemma keys_insert (m : OrderedMap α β) (a : α) (b : β) :
    (m.insert a b).keys = if a ∈ m.keys then m.keys else m.keys ++ [a] :=
  map_fst_assignEntry

/-- The entry of a new key stands at the end. -/
lemma assignEntry_of_not_mem {a : α} {b : β} {es : List (α × β)} (h : a ∉ es.map Prod.fst) :
    assignEntry a b es = es ++ [(a, b)] := by
  induction es with
  | nil => rfl
  | cons e es ih =>
    obtain ⟨k, v⟩ := e
    rw [List.map_cons, List.mem_cons, not_or] at h
    rw [assignEntry, if_neg (Ne.symm h.1), ih h.2, List.cons_append]

/-- Assigning to a new key puts an entry at the end. -/
lemma entries_insert_of_not_mem {m : OrderedMap α β} {a : α} {b : β} (h : a ∉ m.keys) :
    (m.insert a b).entries = m.entries ++ [(a, b)] :=
  assignEntry_of_not_mem h

/-! ### Lists of assignments -/

/-- An empty list of assignments changes nothing. -/
@[simp] lemma insertMany_nil (m : OrderedMap α β) : m.insertMany [] = m := rfl

/-- Assignments are made one after another, from the first on. -/
lemma insertMany_cons (m : OrderedMap α β) (e : α × β) (es : List (α × β)) :
    m.insertMany (e :: es) = (m.insert e.1 e.2).insertMany es := rfl

/-- Two lists of assignments are made one after the other. -/
lemma insertMany_append (m : OrderedMap α β) (es fs : List (α × β)) :
    m.insertMany (es ++ fs) = (m.insertMany es).insertMany fs :=
  List.foldl_append

/-- The last assignment is made last. -/
lemma insertMany_concat (m : OrderedMap α β) (es : List (α × β)) (e : α × β) :
    m.insertMany (es ++ [e]) = (m.insertMany es).insert e.1 e.2 :=
  insertMany_append m es [e]

/-- After a list of assignments, a key has the value of the last one to it. -/
lemma get?_insertMany (m : OrderedMap α β) (es : List (α × β)) (a : α) :
    (m.insertMany es).get? a = ((ofList es).get? a).or (m.get? a) := by
  induction es using List.reverseRecOn with
  | nil => rfl
  | append_singleton es e ih =>
    rw [ofList, insertMany_concat, insertMany_concat, get?_insert, get?_insert, ← ofList]
    by_cases h : e.1 = a
    · simp [h]
    · simp only [h, if_false, ih]

/-- After a list of assignments, the new keys stand behind the old ones, in the order in which
they were first assigned. -/
lemma keys_insertMany (m : OrderedMap α β) (es : List (α × β)) :
    (m.insertMany es).keys = m.keys ++ (ofList es).keys.filter fun a => !m.contains a := by
  have hnew : ∀ a, m.contains a = decide (a ∈ m.keys) := by
    intro a
    rw [Bool.eq_iff_iff, contains_iff, decide_eq_true_iff]
  induction es using List.reverseRecOn with
  | nil => simp [ofList]
  | append_singleton es e ih =>
    rw [ofList, insertMany_concat, insertMany_concat, keys_insert, keys_insert, ← ofList, ih]
    by_cases hm : e.1 ∈ m.keys
    · by_cases hes : e.1 ∈ (ofList es).keys <;> simp [hnew, hm, hes]
    · by_cases hes : e.1 ∈ (ofList es).keys <;> simp [hnew, hm, hes]

/-- The keys of the map of a list are those that the list assigns to. -/
lemma mem_keys_ofList {es : List (α × β)} {a : α} :
    a ∈ (ofList es).keys ↔ a ∈ es.map Prod.fst := by
  induction es using List.reverseRecOn with
  | nil => rfl
  | append_singleton es e ih =>
    rw [ofList, insertMany_concat, mem_keys_insert, ← ofList, ih, List.map_append, List.mem_append,
      List.map_singleton, List.mem_singleton]
    tauto

/-- The keys of the map of a list are in the order in which the list first assigns to them. -/
lemma keys_ofList (es : List (α × β)) : (ofList es).keys = (es.map Prod.fst).eraseDups := by
  induction es using List.reverseRecOn with
  | nil => rfl
  | append_singleton es e ih =>
    rw [ofList, insertMany_concat, ← ofList, keys_insert, List.map_append, List.map_singleton,
      History.eraseDups_concat, ih]
    simp only [List.mem_eraseDups]

/-- The value of a key in the map of a list is the last one that the list assigns to it. -/
lemma get?_ofList (es : List (α × β)) (a : α) :
    (ofList es).get? a = History.lastSome? (fun e => if e.1 = a then some e.2 else none) es := by
  induction es using List.reverseRecOn with
  | nil => rfl
  | append_singleton es e ih =>
    rw [ofList, insertMany_concat, ← ofList, get?_insert, History.lastSome?_concat, ih]
    split <;> rfl

/-- A value in the map of a list is one that the list assigns. -/
lemma mem_of_get?_ofList {es : List (α × β)} {a : α} {b : β} (h : (ofList es).get? a = some b) :
    (a, b) ∈ es := by
  rw [get?_ofList] at h
  obtain ⟨e, he, hword⟩ := List.exists_of_findSome?_eq_some h
  split at hword
  · next hkey =>
    obtain rfl := Option.some.inj hword
    rw [← hkey]
    exact List.mem_reverse.mp he
  · cases hword

/-- Changing the values of a list of assignments changes what is found under each key. -/
lemma get?_ofList_map {γ : Type} (g : β → γ) (es : List (α × β)) (a : α) :
    (ofList (es.map fun e => (e.1, g e.2))).get? a = ((ofList es).get? a).map g := by
  induction es using List.reverseRecOn with
  | nil => rfl
  | append_singleton es e ih =>
    rw [List.map_append, List.map_singleton, ofList, ofList, insertMany_concat, insertMany_concat,
      get?_insert, get?_insert, ← ofList, ← ofList, ih]
    split <;> rfl

/-- The entries of some of the keys are assigned as in the whole map. -/
lemma assignEntry_filter (p : α → Bool) (a : α) (b : β) (es : List (α × β)) :
    (assignEntry a b es).filter (fun e => p e.1)
      = if p a then assignEntry a b (es.filter fun e => p e.1) else es.filter fun e => p e.1 := by
  induction es with
  | nil => cases hp : p a <;> simp [assignEntry, hp]
  | cons e es ih =>
    obtain ⟨k, v⟩ := e
    by_cases hk : k = a
    · subst hk
      cases hp : p k <;> simp [assignEntry, hp]
    · rw [assignEntry, if_neg hk, List.filter_cons, ih, List.filter_cons]
      cases p k with
      | false => rfl
      | true =>
        rw [if_pos rfl, if_pos rfl]
        split
        · rw [assignEntry, if_neg hk]
        · rfl

/-- Leaving keys out of the map of a list is leaving them out of the list. -/
lemma filter_entries_ofList (p : α → Bool) (es : List (α × β)) :
    (ofList es).entries.filter (fun e => p e.1) = (ofList (es.filter fun e => p e.1)).entries := by
  induction es using List.reverseRecOn with
  | nil => rfl
  | append_singleton es e ih =>
    rw [ofList, insertMany_concat, ← ofList, insert, assignEntry_filter, ih, List.filter_append,
      List.filter_singleton]
    cases p e.1 with
    | false => rw [if_neg Bool.false_ne_true, cond_false, List.append_nil]
    | true => rw [if_pos rfl, cond_true, ofList, ofList, insertMany_concat, insert]

/-- Assignments to pairwise different keys are the entries of the map that they define. -/
lemma entries_ofList {es : List (α × β)} (h : (es.map Prod.fst).Nodup) :
    (ofList es).entries = es := by
  induction es using List.reverseRecOn with
  | nil => rfl
  | append_singleton es e ih =>
    rw [List.map_append, List.nodup_append] at h
    have hes : (ofList es).entries = es := ih h.1
    have hnew : e.1 ∉ (ofList es).keys := by
      rw [keys, hes]
      intro hmem
      exact h.2.2 e.1 hmem e.1 (by simp) rfl
    rw [ofList, insertMany_concat, ← ofList, entries_insert_of_not_mem hnew, hes]

/-- A map is the map of its entries. -/
lemma ofList_entries (m : OrderedMap α β) : ofList m.entries = m :=
  ext_entries (entries_ofList m.nodup_keys)

/-- Assigning the entries of the map of a list does what assigning the list does. -/
theorem insertMany_entries_ofList (m : OrderedMap α β) (es : List (α × β)) :
    m.insertMany (ofList es).entries = m.insertMany es := by
  apply ext_get?
  · rw [keys_insertMany, keys_insertMany, ofList_entries]
  · intro a
    rw [get?_insertMany, get?_insertMany, ofList_entries]

/-- Assigning the entries of several maps does what assigning their lists does. -/
lemma insertMany_flatMap_entries {γ : Type} (g : γ → List (α × β)) (l : List γ)
    (m : OrderedMap α β) :
    m.insertMany (l.flatMap fun x => (ofList (g x)).entries) = m.insertMany (l.flatMap g) := by
  induction l generalizing m with
  | nil => rfl
  | cons x l ih =>
    rw [List.flatMap_cons, List.flatMap_cons, insertMany_append, insertMany_append,
      insertMany_entries_ofList, ih]

/-- Two lists of assignments do the same to a map when they leave the same values and the same new
keys. -/
lemma insertMany_eq_iff {m : OrderedMap α β} {es fs : List (α × β)} :
    m.insertMany es = m.insertMany fs
      ↔ (∀ a, ((ofList es).get? a).or (m.get? a) = ((ofList fs).get? a).or (m.get? a)) ∧
          (ofList es).keys.filter (fun a => !m.contains a)
            = (ofList fs).keys.filter fun a => !m.contains a := by
  constructor
  · intro h
    refine ⟨fun a => ?_, ?_⟩
    · rw [← get?_insertMany, ← get?_insertMany, h]
    · have hkeys := congrArg keys h
      rw [keys_insertMany, keys_insertMany] at hkeys
      exact List.append_cancel_left hkeys
  · rintro ⟨hget, hkeys⟩
    apply ext_get?
    · rw [keys_insertMany, keys_insertMany, hkeys]
    · intro a
      rw [get?_insertMany, get?_insertMany, hget]

end OrderedMap

end DesignTokens
