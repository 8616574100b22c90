import BookLinks.Yaml.Event
import BookLinks.Regex.Match
/-!
# The node graph of a YAML document

Composing a document turns its events into a graph of nodes: scalars, sequences and
mappings, each with a tag. Nodes live in an array and refer to each other by index, so an
alias is one more reference to the node its anchor named, and a collection may hold itself.

A node without a tag, or tagged `!`, gets one here. A collection is a sequence or a mapping
of the standard schema. A plain scalar is tried against the patterns of the YAML 1.1
types, in a fixed order, among those whose texts may start with its first character: truth
values, floating-point numbers, integers, the merge key `<<`, null, timestamps, the value
key `=`, and the indicators `!`, `&`, `*`; a text that none of them matches is a string.
-/
namespace BookLinks.Yaml

open BookLinks.Data

/-- What a node holds: a scalar's text, a sequence's items, or a mapping's pairs, in the
order they were written; items and pairs are node indices. -/
inductive NodeBody where
  | scalar (value : String)
  | sequence (items : Array Nat)
  | mapping (pairs : Array (Nat × Nat))
  deriving Repr, Inhabited

def NodeBody.kindName : NodeBody → String
  | .scalar _ => "scalar"
  | .sequence _ => "sequence"
  | .mapping _ => "mapping"

/-- A node: its tag, its contents and the mark where it starts. -/
structure Node where
  tag : String
  body : NodeBody
  start : Mark
  deriving Repr, Inhabited

/-- The tag of the standard schema with a short name. -/
def stdTag (name : String) : String := "tag:yaml.org,2002:" ++ name

/-- The patterns of the implicit scalar types, each with the characters its texts may
start with; the empty text is marked by the empty string. -/
def implicitPatterns : List (String × List String × String) :=
  let digits := ["0", "1", "2", "3", "4", "5", "6", "7", "8", "9"]
  [ (stdTag "bool", ["y", "Y", "n", "N", "t", "T", "f", "F", "o", "O"],
      "^(?:yes|Yes|YES|no|No|NO|true|True|TRUE|false|False|FALSE|on|On|ON|off|Off|OFF)$"),
    (stdTag "float", ["-", "+", "."] ++ digits,
      "^(?:[-+]?(?:[0-9][0-9_]*)\\.[0-9_]*(?:[eE][-+][0-9]+)?|\\.[0-9][0-9_]*(?:[eE][-+][0-9]+)?" ++
      "|[-+]?[0-9][0-9_]*(?::[0-5]?[0-9])+\\.[0-9_]*|[-+]?\\.(?:inf|Inf|INF)|\\.(?:nan|NaN|NAN))$"),
    (stdTag "int", ["-", "+"] ++ digits,
      "^(?:[-+]?0b[0-1_]+|[-+]?0[0-7_]+|[-+]?(?:0|[1-9][0-9_]*)|[-+]?0x[0-9a-fA-F_]+" ++
      "|[-+]?[1-9][0-9_]*(?::[0-5]?[0-9])+)$"),
    (stdTag "merge", ["<"], "^(?:<<)$"),
    (stdTag "null", ["~", "n", "N", ""], "^(?:~|null|Null|NULL|)$"),
    (stdTag "timestamp", digits,
      "^(?:[0-9][0-9][0-9][0-9]-[0-9][0-9]-[0-9][0-9]|[0-9][0-9][0-9][0-9]-[0-9][0-9]?-[0-9][0-9]?" ++
      "(?:[Tt]|[ \\t]+)[0-9][0-9]?:[0-9][0-9]:[0-9][0-9](?:\\.[0-9]*)?" ++
      "(?:[ \\t]*(?:Z|[-+][0-9][0-9]?(?::[0-9][0-9])?))?)$"),
    (stdTag "value", ["="], "^(?:=)$"),
    (stdTag "yaml", ["!", "&", "*"], "^(?:!|&|\\*)$") ]

def implicitMatchers : List (String × List String × Regex.Pattern) :=
  implicitPatterns.filterMap fun (tag, firsts, source) =>
    match Regex.compile source with
    | .ok p => some (tag, firsts, p)
    | .error _ => none

/-- The tag of a scalar whose tag is found from its text. -/
def implicitTag (value : String) : String :=
  let first := (value.toList.head?.map String.singleton).getD ""
  let input := value.toList.toArray
  match implicitMatchers.find? (fun (_, firsts, p) => firsts.contains first && p.matchesAt input 0) with
  | some (tag, _, _) => tag
  | none => stdTag "str"

/-- The state of composition: the event reader, the nodes so far, and the anchors of the
document with the nodes they name. -/
structure Composer where
  reader : EventReader
  nodes : Array Node
  anchors : List (String × Nat)
  deriving Inhabited

abbrev ComposeM := StateT Composer (Except LoadError)

/-- An open collection while its contents are composed: a sequence, a mapping waiting for
a key, or a mapping waiting for the value of a key. -/
inductive OpenNode where
  | sequence (id : Nat)
  | key (id : Nat)
  | value (id key : Nat)
  deriving Repr, Inhabited

namespace ComposeM

/-- Runs an event reader step on the composer's reader. -/
def events {α : Type} (m : EventM α) : ComposeM α := fun c => do
  let (a, r) ← m c.reader
  pure (a, { c with reader := r })

def peekEvent : ComposeM Event := do
  return (← events EventM.peekEvent).getD default

def takeEvent : ComposeM Event := events EventM.takeEvent

/-- Adds a node, naming it by its anchor; gives its index. -/
def addNode (n : Node) (anchor : Option String) : ComposeM Nat := do
  let c ← get
  let id := c.nodes.size
  let anchors := match anchor with
    | some a => (a, id) :: c.anchors.filter (·.1 != a)
    | none => c.anchors
  set { c with nodes := c.nodes.push n, anchors := anchors }
  return id

/-- Puts a composed node into the innermost open collection. -/
def attach (child : Nat) : List OpenNode → ComposeM (List OpenNode)
  | [] => pure []
  | .sequence id :: rest => do
    modify fun c => { c with nodes := c.nodes.modify id fun n =>
      match n.body with
      | .sequence items => { n with body := .sequence (items.push child) }
      | _ => n }
    return .sequence id :: rest
  | .key id :: rest => pure (.value id child :: rest)
  | .value id key :: rest => do
    modify fun c => { c with nodes := c.nodes.modify id fun n =>
      match n.body with
      | .mapping pairs => { n with body := .mapping (pairs.push (key, child)) }
      | _ => n }
    return .key id :: rest

/-- The tag of a node from its event: the one given, or for none and `!` the implicit
one. -/
def tagOf (given : Option String) (implicit : String) : String :=
  match given with
  | some t => if t == "!" then implicit else t
  | none => implicit

/-- Composes the events of one node, collection contents included, and gives the index of
the root node. Each round reads one event: it ends the innermost open collection, or
starts a node, which is an alias, a scalar or a new open collection. -/
def composeFrom : Nat → List OpenNode → ComposeM Nat
  | 0, _ => throw .tooDeep
  | fuel + 1, stack => do
    let e ← peekEvent
    let closes := match stack, e.kind with
      | .sequence _ :: _, .sequenceEnd => true
      | .key _ :: _, .mappingEnd => true
      | _, _ => false
    if closes then
      let _ ← takeEvent
      match stack with
      | (.sequence id) :: rest | (.key id) :: rest =>
        if rest.isEmpty then return id
        composeFrom fuel (← attach id rest)
      | _ => composeFrom fuel stack
    else
      let child ← match e.kind with
        | .alias name => do
          let _ ← takeEvent
          match (← get).anchors.lookup name with
          | some id => pure (some id)
          | none => throw (LoadError.fail none none ("found undefined alias " ++ quoted name) e.start)
        | _ => do
          if let some a := e.anchor then
            if let some first := (← get).anchors.lookup a then
              let n := (← get).nodes[first]?.getD default
              throw (LoadError.fail (some ("found duplicate anchor " ++ quoted a ++ "; first occurrence"))
                (some n.start) "second occurrence" e.start)
          let _ ← takeEvent
          match e.kind with
          | .scalar anchor tag plainImplicit _ value =>
            let t := tagOf tag (if plainImplicit then implicitTag value else stdTag "str")
            pure (some (← addNode ⟨t, .scalar value, e.start⟩ anchor))
          | .sequenceStart anchor tag => do
            let id ← addNode ⟨tagOf tag (stdTag "seq"), .sequence #[], e.start⟩ anchor
            return ← composeFrom fuel (.sequence id :: stack)
          | .mappingStart anchor tag => do
            let id ← addNode ⟨tagOf tag (stdTag "map"), .mapping #[], e.start⟩ anchor
            return ← composeFrom fuel (.key id :: stack)
          | _ => pure none
      match child with
      | some id =>
        if stack.isEmpty then return id
        composeFrom fuel (← attach id stack)
      | none => composeFrom fuel stack

/-- Composes one document: its start, its root node and its end; anchors do not reach
past it. -/
def document (fuel : Nat) : ComposeM Nat := do
  let _ ← takeEvent
  let root ← composeFrom fuel []
  let _ ← takeEvent
  modify fun c => { c with anchors := [] }
  return root

/-- Composes the only document of the stream, if there is one; a second document is an
error. -/
def single (fuel : Nat) : ComposeM (Option Nat) := do
  let _ ← takeEvent
  let isEnd (e : Event) : Bool := match e.kind with
    | .streamEnd => true
    | _ => false
  let root ← if isEnd (← peekEvent) then pure none else some <$> document fuel
  if !isEnd (← peekEvent) then
    let e ← takeEvent
    let nodes := (← get).nodes
    let start := match root with
      | some r => (nodes[r]?.map (·.start)).getD default
      | none => default
    throw (LoadError.fail (some "expected a single document in the stream") (some start)
      "but found another document" e.start)
  let _ ← takeEvent
  return root

end ComposeM

/-- The printable characters of YAML: tab, line feed, carriage return, the printable ASCII
characters, next line, and the rest of the Basic Multilingual Plane from no-break space on
except surrogates and the two non-characters at its end, and every character beyond it. -/
def isYamlPrintable (c : Char) : Bool :=
  let n := c.toNat
  n == 0x09 || n == 0x0A || n == 0x0D || (0x20 ≤ n && n ≤ 0x7E) || n == 0x85 ||
    (0xA0 ≤ n && n ≤ 0xD7FF) || (0xE000 ≤ n && n ≤ 0xFFFD) || (0x10000 ≤ n && n ≤ 0x10FFFF)

/-- The graph of the only document of a text, with the index of its root; `none` for a
text without documents. A character that YAML does not allow is an error before anything
is read. -/
def composeText (text : List Char) : Except LoadError (Option (Array Node × Nat)) := do
  match text.findIdx? (fun c => !isYamlPrintable c) with
  | some i => throw (.unacceptable (text.getD i ' ').toNat i)
  | none => pure ()
  let fuel := 16 * (text.length + 4)
  let (root, c) ← (ComposeM.single fuel).run ⟨EventReader.init text, #[], []⟩
  return root.map (fun r => (c.nodes, r))

end BookLinks.Yaml
