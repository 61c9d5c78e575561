/-!
What can be wrong with the text of an XML document.
-/

namespace ServiceWiring.Xml

inductive Fault where
  /-- The text ends at this line and column without a whole root element. -/
  | noElement (line column : Nat)
  | invalidToken
  | unclosedToken
  | mismatchedTag
  | duplicateAttribute
  | junkAfterRoot
  | misplacedDeclaration
  | malformedDeclaration
  | malformedDoctype
  | invalidPublicId
  | parameterReference
  | invalidCharacterReference
  | undefinedEntity
  | recursiveEntity
  | unbalancedEntity
  | unparsedEntity
  | externalEntity
  | excessiveExpansion
  | unboundPrefix
  | emptyPrefixBinding
  | reservedNamespace
deriving DecidableEq, Repr

def Fault.message : Fault → String
  | .noElement line column =>
    "no element found: line " ++ toString line ++ ", column " ++ toString column
  | .invalidToken => "not well-formed (invalid token)"
  | .unclosedToken => "unclosed token"
  | .mismatchedTag => "mismatched tag"
  | .duplicateAttribute => "duplicate attribute"
  | .junkAfterRoot => "junk after document element"
  | .misplacedDeclaration => "XML or text declaration not at start of entity"
  | .malformedDeclaration => "XML declaration not well-formed"
  | .malformedDoctype => "syntax error"
  | .invalidPublicId => "illegal character(s) in public id"
  | .parameterReference => "illegal parameter entity reference"
  | .invalidCharacterReference => "reference to invalid character number"
  | .undefinedEntity => "undefined entity"
  | .recursiveEntity => "recursive entity reference"
  | .unbalancedEntity => "asynchronous entity"
  | .unparsedEntity => "reference to binary entity"
  | .externalEntity => "reference to external entity in attribute"
  | .excessiveExpansion =>
    "limit on input amplification factor (from DTD and entities) breached"
  | .unboundPrefix => "unbound prefix"
  | .emptyPrefixBinding => "must not undeclare prefix"
  | .reservedNamespace => "reserved prefix or namespace"

end ServiceWiring.Xml
