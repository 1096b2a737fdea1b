import DesignTokens.OrderedMap
import DesignTokens.Token.Record

/-!
# The token registry

The registry stores what it is handed, under three indices: every record that was ever
registered for a name, the active record of each theme, and the active records of each category.
Which record is active is the caller's decision; the registry keeps the indices in agreement
with it.
-/

namespace DesignTokens

/-- Token records under their name, theme and category. -/
structure Registry where
  /-- Every record registered for a name, oldest first. -/
  audit : OrderedMap String (List TokenRecord)
  /-- The active records of the light theme. -/
  light : OrderedMap String TokenRecord
  /-- The active records of the dark theme. -/
  dark : OrderedMap String TokenRecord
  /-- The active records of each category. -/
  buckets : OrderedMap Category (OrderedMap TokenKey TokenRecord)
  /-- The registered names as they were listed last; a registration forgets them. -/
  listing : Option (List String)

namespace Registry

/-- The registry without records. -/
def empty : Registry :=
  ⟨.empty, .empty, .empty, .empty, none⟩

instance : Inhabited Registry :=
  ⟨empty⟩

/-- The active records of a theme. -/
def active (g : Registry) : Theme → OrderedMap String TokenRecord
  | .light => g.light
  | .dark => g.dark

/-- Replace the active records of a theme. -/
def setActive (g : Registry) (theme : Theme) (m : OrderedMap String TokenRecord) : Registry :=
  match theme with
  | .light => { g with light := m }
  | .dark => { g with dark := m }

/-- The active records of a category, by key. -/
def bucket (g : Registry) (c : Category) : OrderedMap TokenKey TokenRecord :=
  (g.buckets.get? c).getD .empty

/-- Replace the active records of a category. -/
def setBucket (g : Registry) (c : Category) (m : OrderedMap TokenKey TokenRecord) : Registry :=
  { g with buckets := g.buckets.insert c m }

/-- Every record registered for a name, oldest first. -/
def getAll (g : Registry) (name : String) : List TokenRecord :=
  (g.audit.get? name).getD []

/-- The active record of a key. -/
def activeRecord? (g : Registry) (name : String) (theme : Theme) : Option TokenRecord :=
  (g.active theme).get? name

/-- Make a record the active one of its key, without registering it. -/
def activate (g : Registry) (r : TokenRecord) : Registry :=
  let g :=
    match g.activeRecord? r.name r.theme with
    | some previous =>
        if previous.category = r.category then g
        else g.setBucket previous.category ((g.bucket previous.category).erase r.key)
    | none => g
  let g := g.setActive r.theme ((g.active r.theme).insert r.name r)
  g.setBucket r.category ((g.bucket r.category).insert r.key r)

/-- Remove the active record of a key; the audit trail stays. -/
def deactivate (g : Registry) (name : String) (theme : Theme) : Registry :=
  match g.activeRecord? name theme with
  | none => g
  | some previous =>
      let g := g.setActive theme ((g.active theme).erase name)
      g.setBucket previous.category ((g.bucket previous.category).erase (name, theme))

/-- Add a record to the audit trail of its name. -/
def record (g : Registry) (r : TokenRecord) : Registry :=
  { g with audit := g.audit.insert r.name (g.getAll r.name ++ [r]), listing := none }

/-- Register a record and make it active. -/
def register (g : Registry) (r : TokenRecord) : Registry :=
  (g.record r).activate r

/-- Register records one after another, each as active. -/
def registerAll (g : Registry) (rs : List TokenRecord) : Registry :=
  rs.foldl register g

/-- The record of a name: the active one of the given theme, or without a theme the active light
one, the active dark one, or the first that was registered. -/
def get? (g : Registry) (name : String) (theme : Option Theme) : Option TokenRecord :=
  match theme with
  | some t => g.activeRecord? name t
  | none =>
      match g.activeRecord? name .light, g.activeRecord? name .dark with
      | some r, _ => some r
      | none, some r => some r
      | none, none => (g.getAll name).head?

/-- The active records of a category. -/
def ofCategory (g : Registry) (c : Category) : List TokenRecord :=
  (g.bucket c).values

/-- The active records of a theme. -/
def ofTheme (g : Registry) (t : Theme) : List TokenRecord :=
  (g.active t).values

/-- The registered names, in the order of their first registration: as they were listed last, or
else listed anew. -/
def names (g : Registry) : List String :=
  g.listing.getD g.audit.keys

/-- The registry that remembers its names once they have been listed. -/
def listNames (g : Registry) : Registry :=
  { g with listing := some g.names }

/-- Was a record registered for the name? -/
def has (g : Registry) (name : String) : Bool :=
  g.audit.contains name

/-- The number of registrations. -/
def size (g : Registry) : Nat :=
  g.audit.values.flatten.length

/-- The number of registered names. -/
def uniqueSize (g : Registry) : Nat :=
  g.audit.size

end Registry

end DesignTokens
