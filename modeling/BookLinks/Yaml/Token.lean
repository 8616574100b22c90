import BookLinks.Yaml.Mark
/-!
# Tokens of a YAML text

The lexer cuts a YAML text into tokens: the bounds of the stream and of documents,
directives, the indicators of block and flow collections, keys and values, anchors,
aliases, tags and scalars. Each token carries the marks where it starts and stops.
-/
namespace BookLinks.Yaml

/-- What a directive says: a version, a tag handle with its prefix, or nothing that is
read. -/
inductive Directive where
  | version (major minor : Nat)
  | tagPrefix (handle pre : String)
  | other
  deriving Repr, Inhabited

/-- The kinds of token, with what each holds. -/
inductive TokenKind where
  | streamStart
  | streamEnd
  | directive (name : String) (value : Directive)
  | documentStart
  | documentEnd
  | blockSequenceStart
  | blockMappingStart
  | blockEnd
  | flowSequenceStart
  | flowMappingStart
  | flowSequenceEnd
  | flowMappingEnd
  | key
  | value
  | blockEntry
  | flowEntry
  | alias (name : String)
  | anchor (name : String)
  | tag (handle : Option String) (suffix : String)
  | scalar (text : String) (plain : Bool)
  deriving Repr, Inhabited

/-- The kinds of token without their contents, for tests on the next token. -/
inductive TokenClass where
  | streamStart
  | streamEnd
  | directive
  | documentStart
  | documentEnd
  | blockSequenceStart
  | blockMappingStart
  | blockEnd
  | flowSequenceStart
  | flowMappingStart
  | flowSequenceEnd
  | flowMappingEnd
  | key
  | value
  | blockEntry
  | flowEntry
  | alias
  | anchor
  | tag
  | scalar
  deriving Repr, DecidableEq, Inhabited

def TokenKind.cls : TokenKind → TokenClass
  | .streamStart => .streamStart
  | .streamEnd => .streamEnd
  | .directive _ _ => .directive
  | .documentStart => .documentStart
  | .documentEnd => .documentEnd
  | .blockSequenceStart => .blockSequenceStart
  | .blockMappingStart => .blockMappingStart
  | .blockEnd => .blockEnd
  | .flowSequenceStart => .flowSequenceStart
  | .flowMappingStart => .flowMappingStart
  | .flowSequenceEnd => .flowSequenceEnd
  | .flowMappingEnd => .flowMappingEnd
  | .key => .key
  | .value => .value
  | .blockEntry => .blockEntry
  | .flowEntry => .flowEntry
  | .alias _ => .alias
  | .anchor _ => .anchor
  | .tag _ _ => .tag
  | .scalar _ _ => .scalar

def TokenClass.name : TokenClass → String
  | .streamStart => "<stream start>"
  | .streamEnd => "<stream end>"
  | .directive => "<directive>"
  | .documentStart => "<document start>"
  | .documentEnd => "<document end>"
  | .blockSequenceStart => "<block sequence start>"
  | .blockMappingStart => "<block mapping start>"
  | .blockEnd => "<block end>"
  | .flowSequenceStart => "["
  | .flowMappingStart => "\x7b"
  | .flowSequenceEnd => "]"
  | .flowMappingEnd => "\x7d"
  | .key => "?"
  | .value => ":"
  | .blockEntry => "-"
  | .flowEntry => ","
  | .alias => "<alias>"
  | .anchor => "<anchor>"
  | .tag => "<tag>"
  | .scalar => "<scalar>"

/-- A token with the marks where it starts and stops. -/
structure Token where
  kind : TokenKind
  start : Mark
  stop : Mark
  deriving Repr, Inhabited

def Token.cls (t : Token) : TokenClass := t.kind.cls

end BookLinks.Yaml
