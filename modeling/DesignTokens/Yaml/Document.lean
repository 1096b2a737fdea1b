import DesignTokens.Yaml.Members
import DesignTokens.Yaml.Merge
import DesignTokens.Yaml.Scalar

/-!
# The value of a document

Nodes are given values level by level: a collection has no content at first, and is filled only when
everything on the level above has its value.  So a collection may be a part of itself, and of
several faults the one at the least depth is met first, and of those at one depth the first in the
text.  Every node is given its value once.
-/

namespace DesignTokens

namespace Yaml

/-- A collection that is still to be filled. -/
structure Unfilled where
  /-- The node. -/
  node : NodeId
  /-- The tag that the node had. -/
  tag : Tag
  /-- The number of the collection. -/
  number : Nat

/-- What is known while nodes are given values. -/
structure Valuation where
  /-- The nodes. -/
  weave : Weave
  /-- The values so far, by node. -/
  values : Array (Option Value)
  /-- The collections so far. -/
  collections : Array Collection
  /-- The collections to be filled, in order; those that are filled stay in front. -/
  unfilled : Array Unfilled

namespace Valuation

/-- A step in giving values. -/
abbrev Step := StateT Valuation (Except Fault)

/-- The text of a node under a scalar tag: a mapping may give it as its default value, perhaps
through other mappings.  After `fuel` nodes, more than there are, one of them has come twice. -/
def scalarText (w : Weave) : (fuel : Nat) → NodeId → Except Fault Text
  | 0, _ => .error .depth
  | fuel + 1, n =>
      match w.content n with
      | .scalar t => .ok t
      | .sequence _ => .error .tag
      | .mapping _ =>
          match (w.pairs n).find? fun p => w.tag p.1 = .value with
          | some (_, v) => scalarText w fuel v
          | none => .error .tag

/-- The value of a node under a scalar tag. -/
def scalar (w : Weave) (n : NodeId) : Except Fault Value := do
  let t ← scalarText w (w.nodes.size + 1) n
  if w.tag n = .timestamp ∧ w.isMapping n then throw (.scalar .noText)
  scalarValue (w.tag n) t

/-- Add a collection. -/
def addCollection (c : Collection) : Step Value := do
  let s ← get
  set { s with collections := s.collections.push c }
  return .collection s.collections.size

/-- Add the collection of a node, to be filled later. -/
def addUnfilled (n : NodeId) (tag : Tag) (c : Collection) : Step Value := do
  let number := (← get).collections.size
  modify fun s => { s with unfilled := s.unfilled.push ⟨n, tag, number⟩ }
  addCollection c

/-- A new value for a node. -/
def newValue (n : NodeId) : Step Value := do
  let w := (← get).weave
  let tag := w.tag n
  match tag with
  | .seq | .omap | .pairs => addUnfilled n tag (.list [])
  | .map => addUnfilled n tag (.map [])
  | .set => addUnfilled n tag (.set [])
  | _ => if tag.isScalar then scalar w n else throw .tag

/-- The value of a node. -/
def value (n : NodeId) : Step Value := do
  match (← get).values[n]? with
  | some (some v) => return v
  | _ =>
      let v ← newValue n
      modify fun s => { s with values := s.values.setIfInBounds n (some v) }
      return v

/-- Assign to a key among entries: a present key keeps its place.  A key that is not equal to itself
is still the key that the same node gave before. -/
def assign (node : NodeId) (k v : Value) :
    List (NodeId × Value × Value) → List (NodeId × Value × Value)
  | [] => [(node, k, v)]
  | (node', k', v') :: es =>
      if node' = node ∨ Value.sameKey k' k then (node', k', v) :: es
      else (node', k', v') :: assign node k v es

/-- The entries that pairs give. -/
def entriesFrom (entries : List (NodeId × Value × Value)) :
    List (NodeId × NodeId) → Step (List (Value × Value))
  | [] => return entries.map Prod.snd
  | (k, v) :: pairs => do
      let key ← value k
      if !key.isKey then throw .tag
      entriesFrom (assign k key (← value v) entries) pairs

/-- The entries of a mapping, into which others are merged. -/
def entries (n : NodeId) : Step (List (Value × Value)) := do
  let w ← (← get).weave.mergeAll n
  modify fun s => { s with weave := w }
  entriesFrom [] (w.pairs n)

/-- The only pair of a mapping, as a tuple. -/
def single (n : NodeId) : Step Value := do
  let w := (← get).weave
  match w.isMapping n, w.pairs n with
  | true, [(k, v)] =>
      let k ← value k
      let v ← value v
      addCollection (.tuple [k, v])
  | _, _ => throw .tag

/-- The content of a collection. -/
def fill (u : Unfilled) : Step Unit := do
  let c ← match u.tag, (← get).weave.content u.node with
    | .seq, .sequence items => pure (.list (← items.mapM value))
    | .omap, .sequence items | .pairs, .sequence items => pure (.list (← items.mapM single))
    | .map, .mapping _ => pure (.map (← entries u.node))
    | .set, .mapping _ => pure (.set (Members.arrange ((← entries u.node).map Prod.fst)))
    | _, _ => throw .tag
  modify fun s => { s with collections := s.collections.setIfInBounds u.number c }

/-- Fill the collections from a position on; there are at most `fuel`. -/
def fillFrom : (fuel : Nat) → (position : Nat) → Step Unit
  | 0, _ => return ()
  | fuel + 1, position => do
      match (← get).unfilled[position]? with
      | none => return ()
      | some u =>
          fill u
          fillFrom fuel (position + 1)

/-- The value of a graph of nodes. -/
def ofGraph (g : Graph) : Except Fault Document := do
  let start : Valuation := ⟨.ofGraph g, g.nodes.map fun _ => none, #[], #[]⟩
  let (root, s) ← (value g.root).run start
  let ((), s) ← (fillFrom g.nodes.size 0).run s
  return ⟨root, s.collections⟩

end Valuation

/-- The value of the only document in a stream; a stream without a document is nothing. -/
def Document.read (s : Stream) : Except Fault Document := do
  match ← Graph.ofStream? s with
  | none => return ⟨.null, #[]⟩
  | some g => Valuation.ofGraph g

end Yaml

end DesignTokens
