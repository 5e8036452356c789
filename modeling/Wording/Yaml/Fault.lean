/-!
# Why a text is no YAML document

The causes for which a text is refused, on its way from characters to tokens and from tokens to
nodes.
-/

namespace Wording.Yaml

/-- A cause for refusing a text. -/
inductive Fault where
  | forbiddenCharacter
  | unexpectedCharacter
  | endInsideScalar
  | documentMarkerInsideScalar
  | unknownEscape
  | badCharacterCode
  | badBlockHeader
  | tabAsIndentation
  | colonBeforeFlowIndicator
  | keyWithoutColon
  | misplacedEntry
  | misplacedKey
  | misplacedValue
  | badAnchor
  | badTag
  | badDirective
  | duplicateDirective
  | unsupportedVersion
  | undefinedTagHandle
  | undefinedAnchor
  | missingContent
  | missingEntry
  | missingKey
  | missingSeparator
  | missingDocumentStart
  | severalDocuments
deriving DecidableEq

/-- What is said about the cause. -/
def Fault.message : Fault → String
  | .forbiddenCharacter => "control characters are not allowed"
  | .unexpectedCharacter => "found character that cannot start any token"
  | .endInsideScalar => "found unexpected end of stream"
  | .documentMarkerInsideScalar => "found unexpected document indicator"
  | .unknownEscape => "found unknown escape character"
  | .badCharacterCode => "found invalid Unicode character escape code"
  | .badBlockHeader => "did not find expected comment or line break"
  | .tabAsIndentation => "found a tab character that violates indentation"
  | .colonBeforeFlowIndicator => "found unexpected ':'"
  | .keyWithoutColon => "could not find expected ':'"
  | .misplacedEntry => "block sequence entries are not allowed in this context"
  | .misplacedKey => "mapping keys are not allowed in this context"
  | .misplacedValue => "mapping values are not allowed in this context"
  | .badAnchor => "did not find expected alphabetic or numeric character"
  | .badTag => "did not find expected tag URI"
  | .badDirective => "found unknown directive name"
  | .duplicateDirective => "found duplicate directive"
  | .unsupportedVersion => "found incompatible YAML document"
  | .undefinedTagHandle => "found undefined tag handle"
  | .undefinedAnchor => "unknown anchor"
  | .missingContent => "did not find expected node content"
  | .missingEntry => "did not find expected '-' indicator"
  | .missingKey => "did not find expected key"
  | .missingSeparator => "did not find expected ',' or closing bracket"
  | .missingDocumentStart => "did not find expected <document start>"
  | .severalDocuments =>
    "deserializing from YAML containing more than one document is not supported"

end Wording.Yaml
