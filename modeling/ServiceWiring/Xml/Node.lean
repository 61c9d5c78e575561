/-!
XML documents as trees: elements with namespaced names, attributes and children, and runs of text.
-/

namespace ServiceWiring.Xml

/-- A name and the namespace it belongs to, if any. -/
structure ExpandedName where
  space : Option String
  name : String
deriving DecidableEq, Repr

inductive Node where
  | text (content : String)
  | element (name : ExpandedName) (attributes : List (ExpandedName × String))
      (children : List Node)

namespace Node

def localName? : Node → Option String
  | .text _ => none
  | .element name _ _ => some name.name

def children : Node → List Node
  | .text _ => []
  | .element _ _ children => children

/-- The value of an attribute that has no namespace. -/
def attribute? (node : Node) (name : String) : Option String :=
  match node with
  | .text _ => none
  | .element _ attributes _ => attributes.lookup ⟨none, name⟩

/-- The value of an attribute, unless it is empty. -/
def filledAttribute? (node : Node) (name : String) : Option String :=
  (node.attribute? name).filter (· != "")

/-- The child elements of a name, whatever their namespace. -/
def childrenNamed (node : Node) (name : String) : List Node :=
  node.children.filter (·.localName? == some name)

end Node

end ServiceWiring.Xml
