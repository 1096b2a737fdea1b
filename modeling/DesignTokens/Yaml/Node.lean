import DesignTokens.Yaml.Lexer
import DesignTokens.Yaml.Tag

/-!
# Nodes

A document is a graph of nodes: scalars, sequences and mappings, each with its tag.  Nodes are known
by number.  They are read from the tokens from the outside in; an alias stands for the node with its
anchor, which may be a node around it.
-/

namespace DesignTokens

namespace Yaml

/-- The number of a node. -/
abbrev NodeId := Nat

/-- What a node holds. -/
inductive Content
  /-- A text. -/
  | scalar (text : Text)
  /-- A list of nodes. -/
  | sequence (items : List NodeId)
  /-- A list of pairs of nodes. -/
  | mapping (pairs : List (NodeId × NodeId))
  deriving Repr, DecidableEq, Inhabited

/-- A node of a document. -/
structure Node where
  /-- How the node is to be read. -/
  tag : Tag
  /-- What it holds. -/
  content : Content
  deriving Repr, DecidableEq

instance : Inhabited Node :=
  ⟨⟨.null, .scalar []⟩⟩

/-- The nodes of a document. -/
structure Graph where
  /-- The nodes, by number. -/
  nodes : Array Node
  /-- The outermost node. -/
  root : NodeId

namespace Node

/-- What is left of the tokens, and what was defined before. -/
structure State where
  /-- The tokens that are left. -/
  tokens : List Token
  /-- The fault behind the last token. -/
  fault : Option Fault
  /-- The short forms of tags. -/
  handles : List (Text × Text)
  /-- The nodes with an anchor. -/
  anchors : List (Text × NodeId)
  /-- The nodes. -/
  nodes : Array Node
  /-- The number of collections around the next node. -/
  depth : Nat

/-- A step in reading nodes. -/
abbrev Step := StateT State (Except Fault)

/-- Add a node. -/
def add (n : Node) : Step NodeId := do
  let s ← get
  set { s with nodes := s.nodes.push n }
  return s.nodes.size

/-- Add the node of an entry that is left out. -/
def addBlank : Step NodeId :=
  add ⟨.null, .scalar []⟩

/-- The next token; reading beyond the last one meets the fault behind it. -/
def peek : Step Token := do
  let s ← get
  match s.tokens with
  | t :: _ => return t
  | [] => throw (s.fault.getD .tree)

/-- Take the next token. -/
def next : Step Token := do
  let t ← peek
  modify fun s => { s with tokens := s.tokens.tail }
  return t

/-- Take the next token if it is this one. -/
def accept (t : Token) : Step Bool := do
  if (← peek) = t then
    discard next
    return true
  else return false

/-- The short forms that every document has. -/
def commonHandles : List (Text × Text) :=
  [(['!'], ['!']), (['!', '!'], "tag:yaml.org,2002:".toList)]

/-- The anchor and the tag of a node. -/
structure Properties where
  /-- The anchor. -/
  anchor : Option Text
  /-- The tag as it is written: a short form, if any, and the rest. -/
  tag : Option (Option Text × Text)

/-- Read the anchor and the tag of a node, in either order. -/
def properties : Step Properties := do
  let anchor? : Step (Option Text) := do
    match ← peek with
    | .anchor name => discard next; return some name
    | _ => return none
  let tag? : Step (Option (Option Text × Text)) := do
    match ← peek with
    | .tag handle suffix => discard next; return some (handle, suffix)
    | _ => return none
  match ← anchor? with
  | some name => return ⟨some name, ← tag?⟩
  | none =>
      match ← tag? with
      | some t => return ⟨← anchor?, some t⟩
      | none => return ⟨none, none⟩

/-- The full text of a tag. -/
def fullTag (tag : Option (Option Text × Text)) : Step (Option Text) := do
  match tag with
  | none => return none
  | some (none, suffix) => return some suffix
  | some (some handle, suffix) =>
      match (← get).handles.lookup handle with
      | some expansion => return some (expansion ++ suffix)
      | none => throw .tree

/-- An anchor must be new. -/
def checkAnchor (anchor : Option Text) : Step Unit := do
  match anchor with
  | some name => if ((← get).anchors.lookup name).isSome then throw .reference
  | none => return ()

/-- Define an anchor. -/
def define (anchor : Option Text) (n : NodeId) : Step Unit := do
  match anchor with
  | some name => modify fun s => { s with anchors := (name, n) :: s.anchors }
  | none => return ()

/-- Is a tag left to the content of the node? -/
def isOpen (tag : Option Text) : Bool :=
  tag.all (· == ['!'])

/-- The tag of a collection. -/
def collectionTag (tag : Option Text) (usual : Tag) : Tag :=
  if isOpen tag then usual else Tag.ofText (tag.getD [])

/-- The tag of a scalar: the one it has, or the one that its text suggests if it is plain. -/
def scalarTag (tag : Option Text) (t : Text) (plain : Bool) : Tag :=
  if isOpen tag then if plain || tag.isSome then Tag.ofPlain t else .str
  else Tag.ofText (tag.getD [])

/-- Read a scalar. -/
def scalar (anchor : Option Text) (tag : Tag) (t : Text) : Step NodeId := do
  let n ← add ⟨tag, .scalar t⟩
  define anchor n
  return n

/-- How many collections may stand around a node. -/
def depthLimit : Nat :=
  489

/-- Read what stands inside a collection. -/
def inside {α : Type} (content : Step α) : Step α := do
  let depth := (← get).depth
  if depthLimit ≤ depth then throw .depth
  modify fun s => { s with depth := depth + 1 }
  let c ← content
  modify fun s => { s with depth }
  return c

/-- Read a collection: it is defined before its entries are read, so that they may refer to it. -/
def collection (anchor : Option Text) (tag : Tag) (content : Step Content) : Step NodeId := do
  let n ← add ⟨tag, .sequence []⟩
  define anchor n
  let c ← inside content
  modify fun s => { s with nodes := s.nodes.setIfInBounds n ⟨tag, c⟩ }
  return n

/-- Where a node may stand: whether a block collection may begin there, and whether a block
sequence may stand there without an indentation of its own. -/
structure Place where
  /-- May a block collection begin here? -/
  block : Bool
  /-- May the entries of a sequence stand at the column of the mapping around it? -/
  flush : Bool

/-- The tokens before which the key or value of a block mapping is left out. -/
def endsBlockPart : Token → Bool
  | .key | .value | .blockEnd => true
  | _ => false

/-- The tokens before which the entry of a block sequence is left out. -/
def endsBlockEntry : Token → Bool
  | .blockEntry | .blockEnd => true
  | _ => false

/-- The tokens before which the entry of a flush sequence is left out. -/
def endsFlushEntry : Token → Bool
  | .blockEntry | .key | .value | .blockEnd => true
  | _ => false

/-- The tokens before which a key in a flow collection is left out. -/
def endsFlowKey (close : Token) (t : Token) : Bool :=
  t = .value || t = .flowEntry || t = close

/-- The tokens before which a value in a flow collection is left out. -/
def endsFlowValue (close : Token) (t : Token) : Bool :=
  t = .flowEntry || t = close

/-- The comma between two entries of a flow collection. -/
def separator : Step Unit := do
  if !(← accept .flowEntry) then throw .tree

mutual

/-- A node; `fuel` bounds the nesting. -/
def node (fuel : Nat) (place : Place) : Step NodeId := do
  match fuel with
  | 0 => throw .tree
  | fuel + 1 =>
      match ← peek with
      | .alias name =>
          discard next
          match (← get).anchors.lookup name with
          | some n => return n
          | none => throw .reference
      | _ =>
          let props ← properties
          let tag ← fullTag props.tag
          let open' (tag : Tag) (content : Step Content) : Step NodeId := do
            checkAnchor props.anchor
            collection props.anchor tag content
          let sequence (items : Step (List NodeId)) : Step NodeId :=
            open' (collectionTag tag .seq) do return .sequence (← items)
          let mapping (pairs : Step (List (NodeId × NodeId))) : Step NodeId :=
            open' (collectionTag tag .map) do return .mapping (← pairs)
          match ← peek with
          | .scalar t plain =>
              discard next
              checkAnchor props.anchor
              scalar props.anchor (scalarTag tag t (plain && tag.isNone)) t
          | .flowSequenceStart =>
              discard next
              sequence (flowItems fuel true)
          | .flowMappingStart =>
              discard next
              mapping (flowPairs fuel true)
          | t =>
              if place.flush ∧ t = .blockEntry then sequence (flushItems fuel)
              else if place.block ∧ t = .blockSequenceStart then do
                discard next
                sequence (blockItems fuel)
              else if place.block ∧ t = .blockMappingStart then do
                discard next
                mapping (blockPairs fuel)
              else if props.anchor.isSome || tag.isSome then do
                checkAnchor props.anchor
                scalar props.anchor (scalarTag tag [] (isOpen tag)) []
              else throw .tree

/-- A node, unless a token stands there before which it is left out. -/
def nodeUnless (fuel : Nat) (leftOut : Token → Bool) (place : Place) : Step NodeId := do
  match fuel with
  | 0 => throw .tree
  | fuel + 1 => if leftOut (← peek) then addBlank else node fuel place

/-- The entries of a block sequence. -/
def blockItems (fuel : Nat) : Step (List NodeId) := do
  match fuel with
  | 0 => throw .tree
  | fuel + 1 =>
      if ← accept .blockEntry then
        let n ← nodeUnless fuel endsBlockEntry ⟨true, false⟩
        return n :: (← blockItems fuel)
      else if ← accept .blockEnd then return []
      else throw .tree

/-- The entries of a sequence that stands at the column of the mapping around it. -/
def flushItems (fuel : Nat) : Step (List NodeId) := do
  match fuel with
  | 0 => throw .tree
  | fuel + 1 =>
      if ← accept .blockEntry then
        let n ← nodeUnless fuel endsFlushEntry ⟨true, false⟩
        return n :: (← flushItems fuel)
      else return []

/-- The pairs of a block mapping. -/
def blockPairs (fuel : Nat) : Step (List (NodeId × NodeId)) := do
  match fuel with
  | 0 => throw .tree
  | fuel + 1 =>
      if ← accept .key then
        let k ← nodeUnless fuel endsBlockPart ⟨true, true⟩
        let v ← if ← accept .value then nodeUnless fuel endsBlockPart ⟨true, true⟩ else addBlank
        return (k, v) :: (← blockPairs fuel)
      else if ← accept .blockEnd then return []
      else throw .tree

/-- The value that may follow a key in a flow collection. -/
def flowValue (fuel : Nat) (close : Token) : Step NodeId := do
  match fuel with
  | 0 => throw .tree
  | fuel + 1 =>
      if ← accept .value then nodeUnless fuel (endsFlowValue close) ⟨false, false⟩
      else addBlank

/-- The entries of a flow sequence; a pair without braces is a mapping of its own. -/
def flowItems (fuel : Nat) (isFirst : Bool) : Step (List NodeId) := do
  match fuel with
  | 0 => throw .tree
  | fuel + 1 =>
      if ← accept .flowSequenceEnd then return []
      if !isFirst then separator
      if ← accept .key then
        let pair ← inside do
          let k ← nodeUnless fuel (endsFlowKey .flowSequenceEnd) ⟨false, false⟩
          return (k, ← flowValue fuel .flowSequenceEnd)
        let n ← add ⟨.map, .mapping [pair]⟩
        return n :: (← flowItems fuel false)
      else if ← accept .flowSequenceEnd then return []
      else
        let n ← node fuel ⟨false, false⟩
        return n :: (← flowItems fuel false)

/-- The pairs of a flow mapping; a node without a value is a key. -/
def flowPairs (fuel : Nat) (isFirst : Bool) : Step (List (NodeId × NodeId)) := do
  match fuel with
  | 0 => throw .tree
  | fuel + 1 =>
      if ← accept .flowMappingEnd then return []
      if !isFirst then separator
      if ← accept .key then
        let k ← nodeUnless fuel (endsFlowKey .flowMappingEnd) ⟨false, false⟩
        let v ← flowValue fuel .flowMappingEnd
        return (k, v) :: (← flowPairs fuel false)
      else if ← accept .flowMappingEnd then return []
      else
        let k ← node fuel ⟨false, false⟩
        let v ← addBlank
        return (k, v) :: (← flowPairs fuel false)

end

/-- The directives at the head of a document: each short form and the version at most once. -/
def directives : (fuel : Nat) → (versionSeen : Bool) → (handles : List (Text × Text)) → Step Unit
  | 0, _, _ => throw .tree
  | fuel + 1, versionSeen, handles => do
      match ← peek with
      | .directive d =>
          discard next
          match d with
          | .version major =>
              if versionSeen || major != 1 then throw .tree
              directives fuel true handles
          | .tag handle expansion =>
              if (handles.lookup handle).isSome then throw .tree
              directives fuel versionSeen ((handle, expansion) :: handles)
          | .other => directives fuel versionSeen handles
      | _ => modify fun s => { s with handles := handles ++ commonHandles }

/-- Pass document end markers. -/
def skipEnds : (fuel : Nat) → Step Unit
  | 0 => return ()
  | fuel + 1 => do if ← accept .documentEnd then skipEnds fuel

/-- The tokens before which the content of a document is left out. -/
def endsDocument : Token → Bool
  | .directive _ | .documentStart | .documentEnd | .streamEnd => true
  | _ => false

/-- A document behind its head, and the end markers directly behind it. -/
def documentContent (fuel : Nat) (mayBeBlank : Bool) : Step NodeId := do
  let n ←
    if mayBeBlank then nodeUnless fuel endsDocument ⟨true, false⟩ else node fuel ⟨true, false⟩
  discard (accept .documentEnd)
  return n

/-- A document that begins with directives or a marker, unless the tokens end. -/
def explicitDocument? (fuel : Nat) : Step (Option NodeId) := do
  skipEnds fuel
  if (← peek) = .streamEnd then return none
  directives fuel false []
  if ← accept .documentStart then return some (← documentContent fuel true) else throw .tree

/-- Read the only document of a stream, if there is one. -/
def document? (fuel : Nat) : Step (Option NodeId) := do
  let n? ←
    match ← peek with
    | .directive _ | .documentStart | .streamEnd => explicitDocument? fuel
    | _ => do pure (some (← documentContent fuel false))
  if n?.isSome then
    skipEnds fuel
    if (← peek) ≠ .streamEnd then
      directives fuel false []
      if ← accept .documentStart then throw .reference else throw .tree
  return n?

end Node

/-- The graph of the only document in a stream, if there is one. -/
def Graph.ofStream? (s : Stream) : Except Fault (Option Graph) := do
  let (tokens, fault) := s.tokens
  let fuel := 4 * tokens.length + 16
  let (root?, state) ← (Node.document? fuel).run ⟨tokens, fault, Node.commonHandles, [], #[], 0⟩
  return root?.map fun root => ⟨state.nodes, root⟩

end Yaml

end DesignTokens
