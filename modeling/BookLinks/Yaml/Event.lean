import BookLinks.Yaml.Lexer
/-!
# Events of a YAML text

The event reader turns tokens into a flat series of events: the bounds of the stream and
of each document, the start and end of each collection, scalars and aliases. It is a
machine whose state says where in the grammar it stands, with a stack of the states to go
back to when a node ends, and a stack of the marks where open collections began. Each event
is read when it is asked for, so that an error late in the text is found only after the
events before it.
-/
namespace BookLinks.Yaml

open BookLinks.Data

/-- The kinds of event, with what each holds. A scalar records whether its tag may be
found from its text (a plain scalar without tag, or one tagged `!`), and whether it was
quoted without a tag. -/
inductive EventKind where
  | streamStart
  | streamEnd
  | documentStart
  | documentEnd
  | alias (anchor : String)
  | scalar (anchor tag : Option String) (plainImplicit quotedImplicit : Bool) (value : String)
  | sequenceStart (anchor tag : Option String)
  | sequenceEnd
  | mappingStart (anchor tag : Option String)
  | mappingEnd
  deriving Repr, Inhabited

/-- An event with the marks where it starts and stops. -/
structure Event where
  kind : EventKind
  start : Mark
  stop : Mark
  deriving Repr, Inhabited

def Event.anchor (e : Event) : Option String :=
  match e.kind with
  | .scalar a _ _ _ _ | .sequenceStart a _ | .mappingStart a _ => a
  | _ => none

inductive GrammarState where
  | streamStart
  | implicitDocumentStart
  | documentStart
  | documentEnd
  | documentContent
  | blockNode
  | blockSequenceFirstEntry
  | blockSequenceEntry
  | indentlessSequenceEntry
  | blockMappingFirstKey
  | blockMappingKey
  | blockMappingValue
  | flowSequenceFirstEntry
  | flowSequenceEntry
  | flowSequenceEntryMappingKey
  | flowSequenceEntryMappingValue
  | flowSequenceEntryMappingEnd
  | flowMappingFirstKey
  | flowMappingKey
  | flowMappingValue
  | flowMappingEmptyValue
  deriving Repr, DecidableEq, Inhabited

/-- The state of the event reader: the lexer, the grammar state (none once the stream has
ended), the states to go back to, the marks of open collections, the tag handles of the
document, and the event read ahead. -/
structure EventReader where
  lexer : Lexer
  state : Option GrammarState
  returns : List GrammarState
  marks : List Mark
  handles : List (String × String)
  current : Option Event
  deriving Inhabited

def defaultHandles : List (String × String) := [("!", "!"), ("!!", "tag:yaml.org,2002:")]

/-- The event reader at the start of `text`. -/
def EventReader.init (text : List Char) : EventReader :=
  ⟨Lexer.init text, some .streamStart, [], [], [], none⟩

abbrev EventM := StateT EventReader (Except LoadError)

namespace EventM

def lex {α : Type} (m : LexM α) : EventM α := fun r => do
  let (a, l) ← m r.lexer
  pure (a, { r with lexer := l })

def peekToken : EventM Token := do
  return (← lex LexM.peekToken).getD default

def takeToken : EventM Token := lex LexM.takeToken

/-- Whether the next token is of one of the classes. -/
def nextIs (classes : List TokenClass) : EventM Bool := do
  match ← lex LexM.peekToken with
  | some t => return classes.contains t.cls
  | none => return false

def fail {α : Type} (context : Option String) (contextMark : Option Mark) (problem : String)
    (problemMark : Mark) : EventM α :=
  throw (LoadError.fail context contextMark problem problemMark)

def goTo (s : GrammarState) : EventM Unit := modify fun r => { r with state := some s }

def goBack : EventM Unit := modify fun r =>
  match r.returns with
  | s :: rest => { r with state := some s, returns := rest }
  | [] => { r with state := none }

def save (s : GrammarState) : EventM Unit := modify fun r => { r with returns := s :: r.returns }

def openMark (m : Mark) : EventM Unit := modify fun r => { r with marks := m :: r.marks }

def closeMark : EventM Unit := modify fun r => { r with marks := r.marks.drop 1 }

def lastMark : EventM Mark := return (← get).marks.headD default

def emptyScalar (m : Mark) : Event := ⟨.scalar none none true false "", m, m⟩

/-- Reads the directives before a document: at most one version, which must be 1.x, and
tag handles, each declared once. The handles of the document are those declared, and the
default ones not redeclared. -/
def directives : Nat → Bool → List (String × String) → EventM Unit
  | 0, _, declared => modify fun r =>
      { r with handles := declared ++ defaultHandles.filter (fun d => (declared.lookup d.1).isNone) }
  | fuel + 1, versioned, declared => do
    if ← nextIs [.directive] then
      let t ← takeToken
      match t.kind with
      | .directive "YAML" (.version major _) =>
        if versioned then fail none none "found duplicate YAML directive" t.start
        if major != 1 then
          fail none none "found incompatible YAML document (version 1.* is required)" t.start
        directives fuel true declared
      | .directive "TAG" (.tagPrefix handle pre) =>
        if (declared.lookup handle).isSome then
          fail none none ("duplicate tag handle " ++ quoted handle) t.start
        directives fuel versioned (declared ++ [(handle, pre)])
      | _ => directives fuel versioned declared
    else directives 0 versioned declared

/-- The properties of a node: an anchor and a tag, in either order, each optional. Gives
the anchor, the tag's handle and suffix, the marks where the properties start and stop,
and the mark of the tag. -/
def properties : EventM (Option String × Option (Option String × String) × Option Mark × Mark × Mark) := do
  let first ← peekToken
  match first.kind with
  | .anchor name =>
    let _ ← takeToken
    let next ← peekToken
    if let .tag h s := next.kind then
      let _ ← takeToken
      return (some name, some (h, s), some first.start, next.stop, next.start)
    return (some name, none, some first.start, first.stop, default)
  | .tag h s =>
    let _ ← takeToken
    let next ← peekToken
    if let .anchor name := next.kind then
      let _ ← takeToken
      return (some name, some (h, s), some first.start, next.stop, first.start)
    return (none, some (h, s), some first.start, first.stop, first.start)
  | _ => return (none, none, none, default, default)

/-- Reads a node: an alias, or properties (anchor and tag, in either order) and then a
scalar, the start of a collection, or nothing, which is an empty scalar when a property
was given. In block context a `-` entry may start a sequence without indentation. -/
def node (block indentless : Bool) : EventM Event := do
  if ← nextIs [.alias] then
    let t ← takeToken
    goBack
    match t.kind with
    | .alias name => return ⟨.alias name, t.start, t.stop⟩
    | _ => return ⟨.alias "", t.start, t.stop⟩
  let (anchor, tag, start, stop, tagMark) ← properties
  let handles := (← get).handles
  let tag ← match tag with
    | some (some handle, suffix) =>
      match handles.lookup handle with
      | some pre => pure (some (pre ++ suffix))
      | none => (fail (some "while parsing a node") start
          ("found undefined tag handle " ++ quoted handle) tagMark : EventM (Option String))
    | some (none, suffix) => pure (some suffix)
    | none => pure none
  let (start, stop) ← match start with
    | some s => pure (s, stop)
    | none => do
      let t ← peekToken
      pure (t.start, t.start)
  let implicit := tag.isNone || tag == some "!"
  let next ← peekToken
  if indentless && next.cls == .blockEntry then
    goTo .indentlessSequenceEntry
    return ⟨.sequenceStart anchor tag, start, next.stop⟩
  match next.kind with
  | .scalar value plain =>
    let _ ← takeToken
    goBack
    let (plainImplicit, quotedImplicit) :=
      if (plain && tag.isNone) || tag == some "!" then (true, false)
      else if tag.isNone then (false, true) else (false, false)
    return ⟨.scalar anchor tag plainImplicit quotedImplicit value, start, next.stop⟩
  | .flowSequenceStart =>
    goTo .flowSequenceFirstEntry
    return ⟨.sequenceStart anchor tag, start, next.stop⟩
  | .flowMappingStart =>
    goTo .flowMappingFirstKey
    return ⟨.mappingStart anchor tag, start, next.stop⟩
  | .blockSequenceStart =>
    if block then
      goTo .blockSequenceFirstEntry
      return ⟨.sequenceStart anchor tag, start, next.start⟩
    else noContent anchor tag implicit start stop next
  | .blockMappingStart =>
    if block then
      goTo .blockMappingFirstKey
      return ⟨.mappingStart anchor tag, start, next.start⟩
    else noContent anchor tag implicit start stop next
  | _ => noContent anchor tag implicit start stop next
where
  /-- No content follows: an empty scalar when the node has properties, else an error. -/
  noContent (anchor tag : Option String) (implicit : Bool) (start stop : Mark) (next : Token) :
      EventM Event := do
    if anchor.isSome || tag.isSome then
      goBack
      return ⟨.scalar anchor tag implicit false "", start, stop⟩
    fail (some (if block then "while parsing a block node" else "while parsing a flow node"))
      (some start) ("expected the node content, but found " ++ quoted next.cls.name) next.start

/-- Skips the `...` markers before a document. -/
def skipDocumentEnds : Nat → EventM Unit
  | 0 => pure ()
  | fuel + 1 => do
    if ← nextIs [.documentEnd] then
      let _ ← takeToken
      skipDocumentEnds fuel

/-- A document that starts with directives or `---`, or the end of the stream. -/
def explicitDocumentStart : EventM Event := do
  skipDocumentEnds (← lex LexM.budget)
  if ← nextIs [.streamEnd] then
    let t ← takeToken
    modify fun r => { r with state := none }
    return ⟨.streamEnd, t.start, t.stop⟩
  let start := (← peekToken).start
  directives (← lex LexM.budget) false []
  if !(← nextIs [.documentStart]) then
    let t ← peekToken
    fail none none ("expected '<document start>', but found " ++ quoted t.cls.name) t.start
  let t ← takeToken
  save .documentEnd
  goTo .documentContent
  return ⟨.documentStart, start, t.stop⟩

/-- The entries of a block sequence, each after a `-`. -/
def blockSequenceEntry : EventM Event := do
  if ← nextIs [.blockEntry] then
    let t ← takeToken
    if !(← nextIs [.blockEntry, .blockEnd]) then
      save .blockSequenceEntry
      return ← node true false
    goTo .blockSequenceEntry
    return emptyScalar t.stop
  if !(← nextIs [.blockEnd]) then
    let t ← peekToken
    fail (some "while parsing a block collection") (some (← lastMark))
      ("expected <block end>, but found " ++ quoted t.cls.name) t.start
  let t ← takeToken
  goBack
  closeMark
  return ⟨.sequenceEnd, t.start, t.stop⟩

/-- The entries of a sequence that a mapping's value starts with `-` at the key's
indentation. -/
def indentlessSequenceEntry : EventM Event := do
  if ← nextIs [.blockEntry] then
    let t ← takeToken
    if !(← nextIs [.blockEntry, .key, .value, .blockEnd]) then
      save .indentlessSequenceEntry
      return ← node true false
    goTo .indentlessSequenceEntry
    return emptyScalar t.stop
  let t ← peekToken
  goBack
  return ⟨.sequenceEnd, t.start, t.start⟩

def blockMappingKey : EventM Event := do
  if ← nextIs [.key] then
    let t ← takeToken
    if !(← nextIs [.key, .value, .blockEnd]) then
      save .blockMappingValue
      return ← node true true
    goTo .blockMappingValue
    return emptyScalar t.stop
  if !(← nextIs [.blockEnd]) then
    let t ← peekToken
    fail (some "while parsing a block mapping") (some (← lastMark))
      ("expected <block end>, but found " ++ quoted t.cls.name) t.start
  let t ← takeToken
  goBack
  closeMark
  return ⟨.mappingEnd, t.start, t.stop⟩

/-- The values of a block mapping; a key without `:` has an empty value. -/
def blockMappingValue : EventM Event := do
  if ← nextIs [.value] then
    let t ← takeToken
    if !(← nextIs [.key, .value, .blockEnd]) then
      save .blockMappingKey
      return ← node true true
    goTo .blockMappingKey
    return emptyScalar t.stop
  goTo .blockMappingKey
  return emptyScalar (← peekToken).start

/-- The entries of a flow sequence, separated by `,`; an entry with `?` or `:` is a
mapping of one pair. -/
def flowSequenceEntry (first : Bool) : EventM Event := do
  if !(← nextIs [.flowSequenceEnd]) then
    if !first then
      if ← nextIs [.flowEntry] then
        let _ ← takeToken
      else
        let t ← peekToken
        fail (some "while parsing a flow sequence") (some (← lastMark))
          ("expected ',' or ']', but got " ++ quoted t.cls.name) t.start
    if ← nextIs [.key] then
      let t ← peekToken
      goTo .flowSequenceEntryMappingKey
      return ⟨.mappingStart none none, t.start, t.stop⟩
    else if !(← nextIs [.flowSequenceEnd]) then
      save .flowSequenceEntry
      return ← node false false
  let t ← takeToken
  goBack
  closeMark
  return ⟨.sequenceEnd, t.start, t.stop⟩

/-- The key of a one-pair mapping in a flow sequence. -/
def flowSequenceEntryMappingKey : EventM Event := do
  let t ← takeToken
  if !(← nextIs [.value, .flowEntry, .flowSequenceEnd]) then
    save .flowSequenceEntryMappingValue
    return ← node false false
  goTo .flowSequenceEntryMappingValue
  return emptyScalar t.stop

def flowSequenceEntryMappingValue : EventM Event := do
  if ← nextIs [.value] then
    let t ← takeToken
    if !(← nextIs [.flowEntry, .flowSequenceEnd]) then
      save .flowSequenceEntryMappingEnd
      return ← node false false
    goTo .flowSequenceEntryMappingEnd
    return emptyScalar t.stop
  goTo .flowSequenceEntryMappingEnd
  return emptyScalar (← peekToken).start

/-- The entries of a flow mapping, separated by `,`. -/
def flowMappingKey (first : Bool) : EventM Event := do
  if !(← nextIs [.flowMappingEnd]) then
    if !first then
      if ← nextIs [.flowEntry] then
        let _ ← takeToken
      else
        let t ← peekToken
        fail (some "while parsing a flow mapping") (some (← lastMark))
          ("expected ',' or '\x7d', but got " ++ quoted t.cls.name) t.start
    if ← nextIs [.key] then
      let t ← takeToken
      if !(← nextIs [.value, .flowEntry, .flowMappingEnd]) then
        save .flowMappingValue
        return ← node false false
      goTo .flowMappingValue
      return emptyScalar t.stop
    else if !(← nextIs [.flowMappingEnd]) then
      save .flowMappingEmptyValue
      return ← node false false
  let t ← takeToken
  goBack
  closeMark
  return ⟨.mappingEnd, t.start, t.stop⟩

def flowMappingValue : EventM Event := do
  if ← nextIs [.value] then
    let t ← takeToken
    if !(← nextIs [.flowEntry, .flowMappingEnd]) then
      save .flowMappingKey
      return ← node false false
    goTo .flowMappingKey
    return emptyScalar t.stop
  goTo .flowMappingKey
  return emptyScalar (← peekToken).start

/-- Reads the event that a grammar state calls for. -/
def produce : GrammarState → EventM Event
  | .streamStart => do
    let t ← takeToken
    goTo .implicitDocumentStart
    return ⟨.streamStart, t.start, t.stop⟩
  | .implicitDocumentStart => do
    if !(← nextIs [.directive, .documentStart, .streamEnd]) then
      modify fun r => { r with handles := defaultHandles }
      let t ← peekToken
      save .documentEnd
      goTo .blockNode
      return ⟨.documentStart, t.start, t.start⟩
    explicitDocumentStart
  | .documentStart => explicitDocumentStart
  | .documentEnd => do
    let t ← peekToken
    let stop ← if ← nextIs [.documentEnd] then pure (← takeToken).stop else pure t.start
    goTo .documentStart
    return ⟨.documentEnd, t.start, stop⟩
  | .documentContent => do
    if ← nextIs [.directive, .documentStart, .documentEnd, .streamEnd] then
      let t ← peekToken
      goBack
      return emptyScalar t.start
    node true false
  | .blockNode => node true false
  | .blockSequenceFirstEntry => do
    openMark (← takeToken).start
    blockSequenceEntry
  | .blockSequenceEntry => blockSequenceEntry
  | .indentlessSequenceEntry => indentlessSequenceEntry
  | .blockMappingFirstKey => do
    openMark (← takeToken).start
    blockMappingKey
  | .blockMappingKey => blockMappingKey
  | .blockMappingValue => blockMappingValue
  | .flowSequenceFirstEntry => do
    openMark (← takeToken).start
    flowSequenceEntry true
  | .flowSequenceEntry => flowSequenceEntry false
  | .flowSequenceEntryMappingKey => flowSequenceEntryMappingKey
  | .flowSequenceEntryMappingValue => flowSequenceEntryMappingValue
  | .flowSequenceEntryMappingEnd => do
    goTo .flowSequenceEntry
    let t ← peekToken
    return ⟨.mappingEnd, t.start, t.start⟩
  | .flowMappingFirstKey => do
    openMark (← takeToken).start
    flowMappingKey true
  | .flowMappingKey => flowMappingKey false
  | .flowMappingValue => flowMappingValue
  | .flowMappingEmptyValue => do
    goTo .flowMappingKey
    return emptyScalar (← peekToken).start

/-- The next event, read if it has not been; none after the stream's end. -/
def peekEvent : EventM (Option Event) := do
  let r ← get
  match r.current with
  | some e => return some e
  | none =>
    match r.state with
    | none => return none
    | some s =>
      let e ← produce s
      modify fun r => { r with current := some e }
      return some e

def takeEvent : EventM Event := do
  let e ← peekEvent
  modify fun r => { r with current := none }
  return e.getD default

end EventM

end BookLinks.Yaml
