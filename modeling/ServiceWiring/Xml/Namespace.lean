import ServiceWiring.Xml.Fault
import ServiceWiring.Xml.Node

/-!
Namespaces: prefixes are bound by attributes of an element and hold for the element and all that
it contains.
-/

namespace ServiceWiring.Xml

/-- Which namespace each prefix stands for, innermost binding first; the empty prefix is the
default, and bound to nothing where it has been taken back. -/
abbrev Bindings := List (String × Option String)

namespace Bindings

/-- The namespace of the prefix `xml`, which no other prefix may have. -/
def xmlSpace : String := "http://www.w3.org/XML/1998/namespace"

/-- The namespace of binding attributes themselves, which no prefix may have. -/
def bindingSpace : String := "http://www.w3.org/2000/xmlns/"

def initial : Bindings := [("xml", some xmlSpace)]

def space? (bindings : Bindings) (mark : String) : Option String := (bindings.lookup mark).join

/-- Splits a qualified name at its colon; a name without one has the empty prefix. -/
def splitName (name : String) : String × String :=
  let (before, after) := name.toList.span (· != ':')
  match after with
  | [] => ("", name)
  | _ :: rest => (String.ofList before, String.ofList rest)

def boundPrefix? (name : String) : Option String :=
  if name = "xmlns" then some ""
  else match splitName name with
    | ("xmlns", mark) => some mark
    | _ => none

def bind (bindings : Bindings) (mark space : String) : Except Fault Bindings :=
  if mark != "" && space == "" then throw .emptyPrefixBinding
  else if mark == "xmlns" then throw .reservedNamespace
  else if space.toList.contains '}' then throw .invalidToken
  else if (mark == "xml") != (space == xmlSpace) then throw .reservedNamespace
  else if space == bindingSpace then throw .reservedNamespace
  else return (mark, if space == "" then none else some space) :: bindings

def extend (bindings : Bindings) (attributes : List (String × String)) : Except Fault Bindings :=
  attributes.foldlM (fun bindings pair =>
    match boundPrefix? pair.1 with
    | some mark => bindings.bind mark pair.2
    | none => return bindings) bindings

/-- The expanded form of an element's name, to which the default namespace applies. -/
def elementName (bindings : Bindings) (name : String) : Except Fault ExpandedName :=
  match splitName name with
  | ("", name) => return ⟨bindings.space? "", name⟩
  | (mark, name) =>
    match bindings.space? mark with
    | some space => return ⟨some space, name⟩
    | none => throw .unboundPrefix

/-- The expanded form of an attribute's name; without a prefix it has no namespace. -/
def attributeName (bindings : Bindings) (name : String) : Except Fault ExpandedName :=
  match splitName name with
  | ("", name) => return ⟨none, name⟩
  | (mark, name) =>
    match bindings.space? mark with
    | some space => return ⟨some space, name⟩
    | none => throw .unboundPrefix

/-- The attributes of an element that are not bindings, no two of which have one name. -/
def attributeNames (bindings : Bindings) (attributes : List (String × String)) :
    Except Fault (List (ExpandedName × String)) := do
  let named ← (attributes.filter fun pair => (boundPrefix? pair.1).isNone).mapM
    fun pair => return (← bindings.attributeName pair.1, pair.2)
  if (named.map (·.1)).Pairwise (· ≠ ·) then return named else throw .duplicateAttribute

end Bindings

end ServiceWiring.Xml
