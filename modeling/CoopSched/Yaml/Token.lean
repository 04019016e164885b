/-!
# Tokens

The smallest units of a document, and what can be wrong with a text on the way to its values.
-/

namespace CoopSched.Yaml

/-- How a scalar was written. -/
inductive Style where
  | plain
  | singleQuoted
  | doubleQuoted
  | literal
  | folded
  deriving DecidableEq, Repr

/-- The units of a document. The ends of block collections come from the indentation. -/
inductive Token where
  | version (major minor : Nat)
  | tagHandle (handle leading : String)
  | documentStart
  | documentEnd
  | blockSequenceStart
  | blockMappingStart
  | blockEnd
  | flowSequenceStart
  | flowSequenceEnd
  | flowMappingStart
  | flowMappingEnd
  | blockEntry
  | flowEntry
  | key
  | value
  | alias (name : String)
  | anchor (name : String)
  | tag (handle suffix : String)
  | scalar (text : String) (style : Style)
  deriving DecidableEq, Repr

/-- Why a text is refused. -/
inductive Fault where
  | forbiddenCharacter
  | noTokenHere
  | badDirective
  | badAnchor
  | badTag
  | badEscape
  | badBlockHeader
  | tabInIndentation
  | unclosedQuote
  | documentMarkInQuotes
  | colonInFlowScalar
  | missingColon
  | entryNotAllowed
  | keyNotAllowed
  | valueNotAllowed
  | missingDocumentStart
  | missingContent
  | missingEntry
  | missingKey
  | missingComma
  | unknownHandle
  | unknownAnchor
  | severalDocuments
  | tooManyAliases
  | wrongKind
  | badNumber
  | repeatedField (name : String)
  | tooLong
  deriving DecidableEq, Repr

namespace Fault

/-- The text shown for a fault. -/
def message : Fault → String
  | forbiddenCharacter => "control characters are not allowed"
  | noTokenHere => "found character that cannot start any token"
  | badDirective => "found a directive that cannot be read"
  | badAnchor => "found an anchor or alias without a proper name"
  | badTag => "found a tag that cannot be read"
  | badEscape => "found unknown escape character"
  | badBlockHeader => "found a block scalar header that cannot be read"
  | tabInIndentation => "found a tab character in the indentation"
  | unclosedQuote => "found unexpected end of stream"
  | documentMarkInQuotes => "found unexpected document indicator"
  | colonInFlowScalar => "found unexpected colon"
  | missingColon => "could not find expected colon"
  | entryNotAllowed => "block sequence entries are not allowed in this context"
  | keyNotAllowed => "mapping keys are not allowed in this context"
  | valueNotAllowed => "mapping values are not allowed in this context"
  | missingDocumentStart => "did not find expected document start"
  | missingContent => "did not find expected node content"
  | missingEntry => "did not find expected hyphen"
  | missingKey => "did not find expected key"
  | missingComma => "did not find expected comma or closing bracket"
  | unknownHandle => "found undefined tag handle"
  | unknownAnchor => "unknown anchor"
  | severalDocuments => "more than one document"
  | tooManyAliases => "repetition limit exceeded"
  | wrongKind => "invalid type"
  | badNumber => "invalid value"
  | repeatedField name => s!"duplicate field {name}"
  | tooLong => "document too long"

end Fault

end CoopSched.Yaml
