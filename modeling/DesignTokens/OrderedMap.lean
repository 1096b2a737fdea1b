/-!
# Maps that remember the order of insertion

An `OrderedMap` is a list of entries with pairwise different keys.  Assigning to a key that is
present replaces its value and keeps its place; a new key goes to the end.  The two views are
`get?` and `keys`: the lemmas say what each operation does to them.
-/

namespace DesignTokens

/-- A finite map whose keys are listed in the order of their first insertion. -/
structure OrderedMap (α β : Type) where
  /-- The entries, oldest key first. -/
  entries : List (α × β)
  /-- No key occurs twice. -/
  nodup_keys : (entries.map Prod.fst).Nodup

namespace OrderedMap

variable {α β : Type}

/-- The map without entries. -/
def empty : OrderedMap α β :=
  ⟨[], List.nodup_nil⟩

instance : EmptyCollection (OrderedMap α β) :=
  ⟨empty⟩

instance : Inhabited (OrderedMap α β) :=
  ⟨empty⟩

/-- The keys, oldest first. -/
def keys (m : OrderedMap α β) : List α :=
  m.entries.map Prod.fst

/-- The values, in the order of their keys. -/
def values (m : OrderedMap α β) : List β :=
  m.entries.map Prod.snd

/-- The number of keys. -/
def size (m : OrderedMap α β) : Nat :=
  m.entries.length

/-- Does the map have no entries? -/
def isEmpty (m : OrderedMap α β) : Bool :=
  m.entries.isEmpty

/-- The keys are listed once each. -/
theorem keys_nodup (m : OrderedMap α β) : m.keys.Nodup :=
  m.nodup_keys

/-- Two maps with the same entries are equal. -/
theorem ext_entries {m n : OrderedMap α β} (h : m.entries = n.entries) : m = n := by
  cases m; cases n; cases h; rfl

variable [DecidableEq α]

/-- The value of a key in a list of entries. -/
def lookupEntry (a : α) : List (α × β) → Option β
  | [] => none
  | (k, v) :: es => if k = a then some v else lookupEntry a es

/-- Assign to a key in a list of entries. -/
def assignEntry (a : α) (b : β) : List (α × β) → List (α × β)
  | [] => [(a, b)]
  | (k, v) :: es => if k = a then (k, b) :: es else (k, v) :: assignEntry a b es

/-- The key of an assignment is there behind it, and no other comes in. -/
theorem mem_keys_assignEntry {a x : α} {b : β} {es : List (α × β)} :
    x ∈ (assignEntry a b es).map Prod.fst ↔ x = a ∨ x ∈ es.map Prod.fst := by
  induction es with
  | nil => simp [assignEntry]
  | cons e es ih =>
      obtain ⟨k, v⟩ := e
      by_cases h : k = a
      · subst h; simp [assignEntry]
      · simp only [assignEntry, h, if_false, List.map_cons, List.mem_cons, ih]
        grind

/-- An assignment does not repeat a key. -/
theorem nodup_keys_assignEntry {a : α} {b : β} {es : List (α × β)}
    (h : (es.map Prod.fst).Nodup) : ((assignEntry a b es).map Prod.fst).Nodup := by
  induction es with
  | nil => simp [assignEntry]
  | cons e es ih =>
      obtain ⟨k, v⟩ := e
      rw [List.map_cons, List.nodup_cons] at h
      by_cases hk : k = a
      · simp only [assignEntry, hk, if_true, List.map_cons, List.nodup_cons]
        exact ⟨hk ▸ h.1, h.2⟩
      · rw [assignEntry, if_neg hk, List.map_cons, List.nodup_cons, mem_keys_assignEntry]
        exact ⟨fun hm => hm.elim hk h.1, ih h.2⟩

/-- The value of a key. -/
def get? (m : OrderedMap α β) (a : α) : Option β :=
  lookupEntry a m.entries

/-- Is the key present? -/
def contains (m : OrderedMap α β) (a : α) : Bool :=
  (m.get? a).isSome

/-- Assign to a key: a present key keeps its place, a new one goes to the end. -/
def insert (m : OrderedMap α β) (a : α) (b : β) : OrderedMap α β :=
  ⟨assignEntry a b m.entries, nodup_keys_assignEntry m.nodup_keys⟩

/-- Remove a key. -/
def erase (m : OrderedMap α β) (a : α) : OrderedMap α β :=
  ⟨m.entries.filter fun e => !decide (e.1 = a),
    m.nodup_keys.sublist (List.filter_sublist.map Prod.fst)⟩

/-- Assign several entries, first to last. -/
def insertMany (m : OrderedMap α β) (es : List (α × β)) : OrderedMap α β :=
  es.foldl (fun acc e => acc.insert e.1 e.2) m

/-- The map of a list of assignments. -/
def ofList (es : List (α × β)) : OrderedMap α β :=
  empty.insertMany es

/-- The value of a key after an assignment. -/
theorem lookupEntry_assignEntry {a x : α} {b : β} {es : List (α × β)} :
    lookupEntry x (assignEntry a b es) = if a = x then some b else lookupEntry x es := by
  induction es with
  | nil => simp [assignEntry, lookupEntry]
  | cons e es ih =>
      obtain ⟨k, v⟩ := e
      simp only [assignEntry]
      split <;> simp only [lookupEntry, ih] <;> grind

/-- An assignment changes the value of its own key only. -/
theorem get?_insert {m : OrderedMap α β} {a x : α} {b : β} :
    (m.insert a b).get? x = if a = x then some b else m.get? x :=
  lookupEntry_assignEntry

/-- Without the entries of a key only this key is not found. -/
theorem lookupEntry_filter {a x : α} {es : List (α × β)} :
    lookupEntry x (es.filter fun e => !decide (e.1 = a))
      = if a = x then none else lookupEntry x es := by
  induction es with
  | nil => simp [lookupEntry]
  | cons e es ih =>
      obtain ⟨k, v⟩ := e
      by_cases h : k = a
      · simp only [List.filter_cons, h, decide_true, Bool.not_true, Bool.false_eq_true, if_false,
          ih, lookupEntry]
        grind
      · simp only [List.filter_cons, h, decide_false, Bool.not_false, if_true, lookupEntry, ih]
        grind

/-- A removal changes the value of its own key only. -/
theorem get?_erase {m : OrderedMap α β} {a x : α} :
    (m.erase a).get? x = if a = x then none else m.get? x :=
  lookupEntry_filter

/-- An assignment adds at most its own key. -/
theorem mem_keys_insert {m : OrderedMap α β} {a x : α} {b : β} :
    x ∈ (m.insert a b).keys ↔ x = a ∨ x ∈ m.keys :=
  mem_keys_assignEntry

end OrderedMap

end DesignTokens
