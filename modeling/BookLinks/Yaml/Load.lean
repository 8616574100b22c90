import BookLinks.Yaml.Node
import BookLinks.Yaml.Scalar
/-!
# Loading a YAML document as a value

A node's tag says which kind of value it builds. Scalars are built when they are reached;
a collection is first noted as built, empty, and its contents are built later, in rounds:
each round builds the contents of the collections noted in the round before. So of two
faulty scalars, the one less deeply nested is reported, whatever their order in the text.

Mappings are merged before their contents are built: a `<<` key takes the pairs of the
mapping it names, or of each mapping of a list of them, with earlier mappings of the list
winning, and the mapping's own pairs win over all merged ones. Keys that are collections
cannot be hashed, and are an error.

Once every node is built without error, the value of the root is read off the graph.
-/
namespace BookLinks.Yaml

open BookLinks.Data

inductive Builder where
  | null
  | truth
  | integer
  | float
  | binary
  | timestamp
  | text
  /-- A list of pairs, written as a list of one-pair mappings; ordered maps and pairs. -/
  | pairList (ordered : Bool)
  | set
  | sequence
  | mapping
  | unknown
  deriving Repr, DecidableEq, Inhabited

/-- The builder of a tag of the standard schema; others have none. -/
def builderOf (tag : String) : Builder :=
  if tag == stdTag "null" then .null
  else if tag == stdTag "bool" then .truth
  else if tag == stdTag "int" then .integer
  else if tag == stdTag "float" then .float
  else if tag == stdTag "binary" then .binary
  else if tag == stdTag "timestamp" then .timestamp
  else if tag == stdTag "omap" then .pairList true
  else if tag == stdTag "pairs" then .pairList false
  else if tag == stdTag "set" then .set
  else if tag == stdTag "str" then .text
  else if tag == stdTag "seq" then .sequence
  else if tag == stdTag "map" then .mapping
  else .unknown

/-- Whether a builder makes a collection, whose contents are built later and which cannot
be a key. -/
def Builder.isCollection : Builder → Bool
  | .pairList _ | .set | .sequence | .mapping => true
  | _ => false

def nodeAt (nodes : Array Node) (id : Nat) : Node := nodes[id]?.getD default

/-- The error for a node of the wrong kind. -/
def wrongKind (expected : String) (n : Node) : LoadError :=
  LoadError.fail none none ("expected " ++ expected ++ ", but found " ++ n.body.kindName) n.start

/-- The text of a scalar node. A mapping with a `=` key stands for the value under it. -/
def scalarText (nodes : Array Node) : Nat → Nat → Except LoadError String
  | 0, _ => .error .tooDeep
  | fuel + 1, id =>
    let n := nodeAt nodes id
    match n.body with
    | .scalar s => .ok s
    | .mapping pairs =>
      match pairs.toList.find? (fun p => (nodeAt nodes p.1).tag == stdTag "value") with
      | some (_, v) => scalarText nodes fuel v
      | none => .error (wrongKind "a scalar node" n)
    | .sequence _ => .error (wrongKind "a scalar node" n)

def scalarValue (nodes : Array Node) (id : Nat) (b : Builder) : Except LoadError Value := do
  let n := nodeAt nodes id
  let text ← scalarText nodes (nodes.size + 1) id
  match b with
  | .null => return .null
  | .truth => return .bool (← truthOf text)
  | .integer => return .int (← intOf text)
  | .float => return .float (← floatOf text)
  | .binary => return .bytes (← binaryOf text n.start)
  | .timestamp =>
    match n.body with
    | .scalar s => stampOf s
    | _ => throw .notText
  | _ => return .str text

/-- The state of building: the nodes, which change as mappings are merged, which nodes are
built, and the collections whose contents wait to be built. -/
structure Building where
  nodes : Array Node
  built : Array Bool
  waiting : Array Nat
  deriving Inhabited

abbrev BuildM := StateT Building (Except LoadError)

namespace BuildM

def node (id : Nat) : BuildM Node := return nodeAt (← get).nodes id

def update (id : Nat) (f : Node → Node) : BuildM Unit :=
  modify fun b => { b with nodes := b.nodes.modify id f }

def pairsOf (id : Nat) : BuildM (Array (Nat × Nat)) := do
  match (← node id).body with
  | .mapping ps => return ps
  | _ => return #[]

/-- Builds a node unless it is built: a scalar is checked now, a collection waits. -/
def build (id : Nat) : BuildM Unit := do
  let st ← get
  if st.built.getD id false then return
  let n := nodeAt st.nodes id
  let b := builderOf n.tag
  if b == .unknown then
    throw (LoadError.fail none none ("could not determine a constructor for the tag " ++ quoted n.tag) n.start)
  if !b.isCollection then
    match scalarValue st.nodes id b with
    | .ok _ => pure ()
    | .error e => throw e
  modify fun s => { s with built := s.built.set! id true,
                           waiting := if b.isCollection then s.waiting.push id else s.waiting }

/-- Merges the `<<` keys of a mapping from the pair at `index` on, with the pairs merged
so far; a `=` key becomes a text key. Merged mappings are merged first. -/
def merge : Nat → Nat → Nat → Array (Nat × Nat) → BuildM Unit
  | 0, _, _, _ => throw .tooDeep
  | fuel + 1, id, index, merged => do
    let pairs ← pairsOf id
    if h : index < pairs.size then
      let (k, v) := pairs[index]
      let keyNode ← node k
      if keyNode.tag == stdTag "merge" then
        update id fun n => { n with body := .mapping (pairs.eraseIdx index) }
        let here ← node id
        let source ← node v
        match source.body with
        | .mapping _ =>
          merge fuel v 0 #[]
          merge fuel id index (merged ++ (← pairsOf v))
        | .sequence subs =>
          let mut gathered : List (Array (Nat × Nat)) := []
          for sub in subs do
            let s ← node sub
            match s.body with
            | .mapping _ =>
              merge fuel sub 0 #[]
              gathered := (← pairsOf sub) :: gathered
            | _ =>
              throw (LoadError.fail (some "while constructing a mapping") (some here.start)
                ("expected a mapping for merging, but found " ++ s.body.kindName) s.start)
          merge fuel id index (gathered.foldl (· ++ ·) merged)
        | .scalar _ =>
          throw (LoadError.fail (some "while constructing a mapping") (some here.start)
            "expected a mapping or list of mappings for merging, but found scalar" source.start)
      else
        if keyNode.tag == stdTag "value" then update k fun n => { n with tag := stdTag "str" }
        merge fuel id (index + 1) merged
    else if !merged.isEmpty then
      update id fun n => { n with body := .mapping (merged ++ pairs) }

/-- Builds the pairs of a mapping, after merging it: each key, which must not be a
collection, then its value. -/
def buildMapping (fuel : Nat) (id : Nat) : BuildM Unit := do
  if let .mapping _ := (← node id).body then merge fuel id 0 #[]
  let n ← node id
  match n.body with
  | .mapping pairs =>
    for (k, v) in pairs do
      build k
      let keyNode ← node k
      if (builderOf keyNode.tag).isCollection then
        throw (LoadError.fail (some "while constructing a mapping") (some n.start)
          "found unhashable key" keyNode.start)
      build v
  | _ => throw (wrongKind "a mapping node" n)

def fill (fuel : Nat) (id : Nat) : BuildM Unit := do
  let n ← node id
  match builderOf n.tag with
  | .sequence =>
    match n.body with
    | .sequence items => for i in items do build i
    | _ => throw (wrongKind "a sequence node" n)
  | .mapping | .set => buildMapping fuel id
  | .pairList ordered =>
    let ctx := some (if ordered then "while constructing an ordered map" else "while constructing pairs")
    match n.body with
    | .sequence items =>
      for sub in items do
        let s ← node sub
        match s.body with
        | .mapping ps =>
          if h : ps.size = 1 then
            build ps[0].1
            build ps[0].2
          else
            throw (LoadError.fail ctx (some n.start)
              ("expected a single mapping item, but found " ++ toString ps.size ++ " items") s.start)
        | _ =>
          throw (LoadError.fail ctx (some n.start)
            ("expected a mapping of length 1, but found " ++ s.body.kindName) s.start)
    | _ => throw (LoadError.fail ctx (some n.start) ("expected a sequence, but found " ++ n.body.kindName) n.start)
  | _ => pure ()

/-- Builds the contents of the waiting collections, round by round. -/
def drain : Nat → BuildM Unit
  | 0 => pure ()
  | rounds + 1 => do
    let batch := (← get).waiting
    if batch.isEmpty then return
    modify fun s => { s with waiting := #[] }
    let fuel := 16777216 + 4 * (← get).nodes.size
    for id in batch do fill fuel id
    drain rounds

end BuildM

/-- The values read off a built graph so far, and the nodes whose value is being read. -/
structure Reading where
  values : Array (Option Value)
  active : Array Bool
  deriving Inhabited

/-- The value of a node of a built graph. A node met again inside itself reads as an empty
list, since a value cannot hold itself. -/
def valueOf (nodes : Array Node) : Nat → Nat → StateM Reading Value
  | 0, _ => pure .null
  | fuel + 1, id => do
    let r ← get
    if let some (some v) := r.values[id]? then return v
    if r.active.getD id false then return .list []
    modify fun r => { r with active := r.active.set! id true }
    let n := nodeAt nodes id
    let b := builderOf n.tag
    let v ← match b, n.body with
      | .sequence, .sequence items => Value.list <$> items.toList.mapM (valueOf nodes fuel)
      | .mapping, .mapping pairs => do
        let es ← pairs.toList.mapM fun p => do
          let k ← valueOf nodes fuel p.1
          let v ← valueOf nodes fuel p.2
          pure (k, v)
        pure (Value.ofEntries es)
      | .set, .mapping pairs => do
        let ks ← pairs.toList.mapM fun p => valueOf nodes fuel p.1
        pure (Value.ofEntries (ks.map (fun k => (k, Value.null))))
      | .pairList _, .sequence items => Value.list <$> items.toList.mapM fun sub => do
          match (nodeAt nodes sub).body with
          | .mapping ps =>
            let es ← ps.toList.mapM fun p => do
              let k ← valueOf nodes fuel p.1
              let v ← valueOf nodes fuel p.2
              pure [k, v]
            pure (Value.list (es.headD []))
          | _ => pure (Value.list [])
      | _, _ =>
        if b.isCollection then pure (Value.list [])
        else pure ((scalarValue nodes id b).toOption.getD .null)
    modify fun r => { r with values := r.values.set! id (some v), active := r.active.set! id false }
    return v

/-- Loads the only document of a YAML text as a value; `none` when the text has no
document. -/
def load (text : String) : Except LoadError (Option Value) := do
  match ← composeText text.toList with
  | none => return none
  | some (nodes, root) =>
    let start : Building := ⟨nodes, Array.replicate nodes.size false, #[]⟩
    let ((), built) ← (do BuildM.build root; BuildM.drain (nodes.size + 2)).run start
    let size := built.nodes.size
    let reading : Reading := ⟨Array.replicate size none, Array.replicate size false⟩
    return some ((valueOf built.nodes (size + 1) root).run reading).1

end BookLinks.Yaml
