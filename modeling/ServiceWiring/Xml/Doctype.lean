import ServiceWiring.Table
import ServiceWiring.Xml.Lexeme

/-!
What a document type declaration adds to a document: general entities, and the types and default
values of attributes.
-/

namespace ServiceWiring.Xml

inductive Entity where
  /-- The text that replaces a reference. -/
  | internal (replacement : List Char)
  /-- A text kept outside the document, which is not read. -/
  | external
  /-- Data that is not XML. -/
  | unparsed

/-- What is declared of an attribute: whether its value is a list of words, and the value it has
where none is written. -/
structure AttributeRule where
  name : String
  tokenized : Bool
  fallback : Option String

structure Doctype where
  entities : Table Entity := {}
  /-- The rules for the attributes of each element; of several for one attribute the first
  counts. -/
  rules : Table (List AttributeRule) := {}
  /-- Whether some declarations were not read, because they stand outside the document. -/
  incomplete : Bool := false
  /-- Whether the document says that nothing outside it matters. -/
  standalone : Bool := false
  /-- Whether declarations are still taken down; after a gap in a document that is not standalone
  they are not. -/
  recording : Bool := true

namespace Doctype

def rulesFor (doctype : Doctype) (element : String) : List AttributeRule :=
  (doctype.rules.get? element).getD []

def ruleFor? (doctype : Doctype) (element name : String) : Option AttributeRule :=
  (doctype.rulesFor element).find? (·.name == name)

/-- Takes down an entity, unless its name is taken. -/
def declareEntity (doctype : Doctype) (name : String) (entity : Entity) : Doctype :=
  if !doctype.recording || (predefinedEntity? name).isSome || doctype.entities.contains name then
    doctype
  else { doctype with entities := doctype.entities.put name entity }

def declareAttribute (doctype : Doctype) (element : String) (rule : AttributeRule) : Doctype :=
  if !doctype.recording || (doctype.ruleFor? element rule.name).isSome then doctype
  else { doctype with rules := doctype.rules.put element (doctype.rulesFor element ++ [rule]) }

def skipDeclarations (doctype : Doctype) : Doctype :=
  { doctype with incomplete := true, recording := doctype.recording && doctype.standalone }

/-- Whether a reference to an entity without a declaration is an error: it is not if its
declaration may have been passed over. -/
def requiresDeclaration (doctype : Doctype) : Bool := !doctype.incomplete || doctype.standalone

end Doctype

end ServiceWiring.Xml
