import DesignTokens.Registry.Basic

/-!
# The catalogue

The catalogue keeps, for every key, the record that each source contributed last.  Of these
candidates the one that ranks first is the active record in the registry.  A source that is
merged again replaces its candidates and retracts those that it no longer has.
-/

namespace DesignTokens

/-- The registry with the candidates behind it. -/
structure Catalogue where
  /-- The records. -/
  registry : Registry
  /-- For each key the candidates, by the identity of their source. -/
  candidates : OrderedMap TokenKey (OrderedMap String TokenRecord)
  /-- The keys that each source contributed when it was merged last. -/
  contributed : OrderedMap String (List TokenKey)

/-- The first of the records that rank first. -/
def firstRanked? : List TokenRecord → Option TokenRecord
  | [] => none
  | r :: rs =>
      match firstRanked? rs with
      | none => some r
      | some s => if precedenceLe r.precedence s.precedence then some r else some s

namespace Catalogue

/-- The catalogue without records. -/
def empty : Catalogue :=
  ⟨.empty, .empty, .empty⟩

instance : Inhabited Catalogue :=
  ⟨empty⟩

/-- The candidates for a key, by the identity of their source. -/
def candidatesOf (c : Catalogue) (key : TokenKey) : OrderedMap String TokenRecord :=
  (c.candidates.get? key).getD .empty

/-- The keys that a source contributed when it was merged last. -/
def keysOf (c : Catalogue) (id : String) : List TokenKey :=
  (c.contributed.get? id).getD []

/-- Make the candidate that ranks first the active record of a key; without candidates the key has
no active record. -/
def resolve (c : Catalogue) (key : TokenKey) : Catalogue :=
  match firstRanked? (c.candidatesOf key).values with
  | none =>
      { c with
        candidates := c.candidates.erase key, registry := c.registry.deactivate key.1 key.2 }
  | some best => { c with registry := c.registry.activate best }

/-- Retract the candidate of a source for a key. -/
def retract (c : Catalogue) (id : String) (key : TokenKey) : Catalogue :=
  match c.candidates.get? key with
  | none => c.resolve key
  | some m => { c with candidates := c.candidates.insert key (m.erase id) }.resolve key

/-- Register a record as the candidate of a source for its key. -/
def offer (c : Catalogue) (id : String) (r : TokenRecord) : Catalogue :=
  { c with
    candidates := c.candidates.insert r.key ((c.candidatesOf r.key).insert id r)
    registry := c.registry.record r }.resolve r.key

/-- Merge the records of a source: keys that it no longer has are retracted, then every record is
offered. -/
def merge (c : Catalogue) (id : String) (rs : List TokenRecord) : Catalogue :=
  let keys := (rs.map TokenRecord.key).eraseDups
  let gone := (c.keysOf id).filter fun key => !keys.contains key
  let c := gone.foldl (fun c key => c.retract id key) c
  let c := rs.foldl (fun c r => c.offer id r) c
  { c with contributed := c.contributed.insert id keys }

end Catalogue

end DesignTokens
