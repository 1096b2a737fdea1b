import DesignTokens.Yaml.Node

/-!
# Merging mappings

A mapping may name others whose pairs it takes over in front of its own.  Merging them changes the
nodes: pairs are taken out of the list that a mapping has, and then the mapping gets a longer list
of its own.  Another mapping that is being merged at the same time, perhaps because the mappings
name each other, refers to the list and not to the mapping, and sees the first change only.
-/

namespace DesignTokens

namespace Yaml

/-- The nodes of a document while mappings are merged. -/
structure Weave where
  /-- The nodes; their tags count, and of their content all but the pairs. -/
  nodes : Array Node
  /-- Lists of pairs. -/
  lists : Array (List (NodeId × NodeId))
  /-- For each node the list that has its pairs, if it is a mapping. -/
  listOf : Array Nat

namespace Weave

/-- The nodes of a document before anything is merged. -/
def ofGraph (g : Graph) : Weave :=
  let pairs (n : Node) : List (NodeId × NodeId) :=
    match n.content with
    | .mapping pairs => pairs
    | _ => []
  ⟨g.nodes, g.nodes.map pairs, Array.range g.nodes.size⟩

/-- The tag of a node. -/
def tag (w : Weave) (n : NodeId) : Tag :=
  (w.nodes[n]?.map Node.tag).getD .null

/-- What a node holds. -/
def content (w : Weave) (n : NodeId) : Content :=
  (w.nodes[n]?.map Node.content).getD (.scalar [])

/-- Is the node a mapping? -/
def isMapping (w : Weave) (n : NodeId) : Bool :=
  w.content n matches .mapping _

/-- The number of the list that has the pairs of a mapping. -/
def listNumber (w : Weave) (n : NodeId) : Nat :=
  w.listOf[n]?.getD 0

/-- The pairs in a list. -/
def pairsIn (w : Weave) (list : Nat) : List (NodeId × NodeId) :=
  w.lists[list]?.getD []

/-- The pairs of a mapping. -/
def pairs (w : Weave) (n : NodeId) : List (NodeId × NodeId) :=
  w.pairsIn (w.listNumber n)

/-- Change the pairs in the list of a mapping. -/
def setPairs (w : Weave) (n : NodeId) (pairs : List (NodeId × NodeId)) : Weave :=
  { w with lists := w.lists.setIfInBounds (w.listNumber n) pairs }

/-- Give a mapping a list of its own. -/
def renew (w : Weave) (n : NodeId) (pairs : List (NodeId × NodeId)) : Weave :=
  { w with lists := w.lists.push pairs, listOf := w.listOf.setIfInBounds n w.lists.size }

/-- Is the key of a pair the one that merges other mappings? -/
def isMerge (w : Weave) (p : NodeId × NodeId) : Bool :=
  w.tag p.1 = .merge

/-- A key for a default value becomes a string. -/
def plainKey (w : Weave) (p : NodeId × NodeId) : Weave :=
  if w.tag p.1 = .value then
    { w with nodes := w.nodes.modify p.1 fun n => { n with tag := .str } }
  else w

/-- The number of pairs that merge other mappings. -/
def mergeCount (w : Weave) : Nat :=
  w.lists.foldl (fun n pairs => n + pairs.countP w.isMerge) 0

mutual

/-- Merge into a mapping the mappings that it names; `fuel` bounds the number of pairs that do so,
as each of them is taken out when its turn comes. -/
def merge (fuel : Nat) (n : NodeId) (w : Weave) : Except Fault Weave := do
  match fuel with
  | 0 => return w
  | fuel + 1 =>
      let (merged, w) ← mergeFrom fuel n 0 [] w
      return if merged.isEmpty then w else w.renew n (merged ++ w.pairs n)

/-- Go through the pairs of a mapping from a position on; `merged` are the pairs taken over. -/
def mergeFrom (fuel : Nat) (n : NodeId) (position : Nat) (merged : List (NodeId × NodeId))
    (w : Weave) : Except Fault (List (NodeId × NodeId) × Weave) := do
  match fuel with
  | 0 => return (merged, w)
  | fuel + 1 =>
      let own := (w.pairs n).drop position |>.takeWhile fun p => !w.isMerge p
      let w := own.foldl plainKey w
      let position := position + own.length
      match (w.pairs n)[position]? with
      | none => return (merged, w)
      | some (_, v) =>
          let w := w.setPairs n ((w.pairs n).eraseIdx position)
          match w.content v with
          | .mapping _ =>
              let w ← merge fuel v w
              mergeFrom fuel n position (merged ++ w.pairs v) w
          | .sequence items =>
              let (lists, w) ← items.foldlM (fun (lists, w) item => do
                if !w.isMapping item then throw .tag
                let w ← merge fuel item w
                return (w.listNumber item :: lists, w)) (([] : List Nat), w)
              mergeFrom fuel n position (merged ++ lists.flatMap w.pairsIn) w
          | .scalar _ => throw .tag

end

/-- Merge into a mapping the mappings that it names. -/
def mergeAll (w : Weave) (n : NodeId) : Except Fault Weave :=
  w.merge (2 * w.mergeCount + 2) n

end Weave

end Yaml

end DesignTokens
