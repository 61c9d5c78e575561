import ServiceWiring.Text.LineEnd
import ServiceWiring.Xml.Declaration
import ServiceWiring.Xml.Namespace

/-!
Reading an XML document from its text. Line ends are unified before anything else, so a text and
the same text with its line ends unified are the same document.
-/

namespace ServiceWiring.Xml

open Text

/-- An element whose end tag has not come yet, with its children so far, last one first. -/
structure Frame where
  written : String
  name : ExpandedName
  attributes : List (ExpandedName × String)
  bindings : Bindings
  children : List Node

/-- The elements that are open, innermost first, and the root once it is complete. -/
structure Construction where
  frames : List Frame := []
  root : Option Node := none

namespace Construction

def bindings (state : Construction) : Bindings :=
  match state.frames with
  | [] => .initial
  | frame :: _ => frame.bindings

def attach (state : Construction) (node : Node) : Construction :=
  match state.frames with
  | [] => { state with root := some node }
  | frame :: outer =>
    { state with frames := { frame with children := node :: frame.children } :: outer }

def step (state : Construction) : Event → Except Fault Construction
  | .opening written attributes => do
    let bindings ← state.bindings.extend attributes
    let name ← bindings.elementName written
    let named ← bindings.attributeNames attributes
    return { state with frames := ⟨written, name, named, bindings, []⟩ :: state.frames }
  | .closing written =>
    match state.frames with
    | [] => throw .mismatchedTag
    | frame :: outer =>
      if frame.written = written then
        return { state with frames := outer }.attach
          (.element frame.name frame.attributes frame.children.reverse)
      else throw .mismatchedTag
  | .text content => return state.attach (.text content)

end Construction

namespace Reader

/-- Blanks, comments and processing instructions between the parts of a document. -/
def miscellany : Nat → Reader Unit
  | 0 => throw .unclosedToken
  | fuel + 1 => do
    blanks
    if ← Scanner.skip "<!--" then
      commentRest
      miscellany fuel
    else if ← Scanner.skip "<?" then
      instructionRest
      miscellany fuel

/-- The line and the column behind the last of some characters; lines count from one. -/
def endPosition (cs : List Char) : Nat × Nat :=
  (cs.count '\n' + 1, (cs.reverse.takeWhile (· != '\n')).length)

def document : Reader Node := do
  let source ← get
  let fuel := source.length + 1
  let noElement : Fault := .noElement (endPosition source).1 (endPosition source).2
  unless source.all isLegal do throw .invalidToken
  let standalone ← declaration
  miscellany fuel
  if ← Scanner.atEnd then throw noElement
  let mut doctype : Doctype := { standalone := standalone }
  let mut allowance := Expansion.allowance source
  if ← Scanner.skip "<!DOCTYPE" then
    (doctype, allowance) ← doctypeRest fuel doctype allowance
    miscellany fuel
    if ← Scanner.atEnd then throw noElement
  unless ← Scanner.sees "<" do throw .invalidToken
  let tokens ← tokens .element fuel 0 []
  let (events, _) ← (doctype.events tokens).run allowance
  miscellany fuel
  unless ← Scanner.atEnd do throw .junkAfterRoot
  let built ← (events.foldlM Construction.step {} : Except Fault Construction)
  match built.root with
  | some root => return root
  | none => throw noElement

end Reader

def byteOrderMark : Char := '\ufeff'

/-- The document that a text holds; one mark of byte order at its head is passed over. -/
def Node.ofText (s : String) : Except Fault Node := do
  let cs := unifyLineEnds s.toList
  let source := if cs.head? = some byteOrderMark then cs.tail else cs
  let (root, _) ← Scanner.read Reader.document source
  return root

end ServiceWiring.Xml
