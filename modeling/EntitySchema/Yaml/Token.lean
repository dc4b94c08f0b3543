import EntitySchema.Yaml.Mark

/-!
# Tokens of YAML text

The scanner cuts a YAML text into tokens: indicators of structure (the starts and ends of
block and flow collections, entries, keys and values), node properties (anchors, aliases,
tags), directives, document markers and scalars with the style they were written in.
-/

namespace EntitySchema.Yaml

/-- How a scalar was written. -/
inductive ScalarStyle where
  | plain
  | singleQuoted
  | doubleQuoted
  | literal
  | folded
  deriving Repr, BEq, DecidableEq

/-- The kinds of token. -/
inductive TokenKind where
  | streamStart
  | streamEnd
  | versionDirective (major minor : Nat)
  | tagDirective (handle pfx : String)
  | documentStart
  | documentEnd
  | blockSequenceStart
  | blockMappingStart
  | blockEnd
  | flowSequenceStart
  | flowSequenceEnd
  | flowMappingStart
  | flowMappingEnd
  | blockEntry
  | flowEntry
  | key
  | value
  | aliasOf (name : String)
  | anchor (name : String)
  | tag (handle suffix : String)
  | scalar (text : String) (style : ScalarStyle)
  deriving Repr, BEq

/-- A token with where it starts and ends. -/
structure Token where
  kind : TokenKind
  start : Mark
  stop : Mark
  deriving Repr

end EntitySchema.Yaml
