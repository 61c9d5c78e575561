import ServiceWiring.Proofs.Documents

/-!
What a dump takes from its document. Service elements are found by their place and by their local
names, and a few attributes of a few elements are read. Everything else may be struck out of a
document: namespaces, text, other attributes and elements in other places.
-/

namespace ServiceWiring.Dump

open Xml

def attributesOf : String → List String
  | "service" => ["id", "class", "public", "alias"]
  | "argument" => ["key", "id", "type"]
  | "call" => ["method"]
  | "factory" => ["service", "method"]
  | _ => []

def admits : String → String → Bool
  | "services", child => child == "service"
  | "service", child => ["argument", "factory", "call"].contains child
  | _, _ => true

def standsIn (parent : String) (node : Node) : Bool := node.localName?.any (admits parent)

def documentedAttributes (name : String) (attributes : List (ExpandedName × String)) :
    List (ExpandedName × String) :=
  (attributesOf name).filterMap fun key =>
    (attributes.lookup ⟨none, key⟩).map (⟨none, key⟩, ·)

mutual

/-- What is documented of an element, at any depth. -/
def documentedPart : Node → Node
  | .text content => .text content
  | .element name attributes children =>
    .element ⟨none, name.name⟩ (documentedAttributes name.name attributes)
      (documentedChildren name.name children)

def documentedChildren (parent : String) : List Node → List Node
  | [] => []
  | node :: rest =>
    if standsIn parent node then documentedPart node :: documentedChildren parent rest
    else documentedChildren parent rest

end

/-- What is documented of a document with the given root: its blocks of services. -/
def documented (root : Node) : Node :=
  .element ⟨none, ""⟩ [] ((root.childrenNamed "services").map documentedPart)

theorem documentedChildren_eq (parent : String) (children : List Node) :
    documentedChildren parent children =
      (children.filter (standsIn parent)).map documentedPart := by
  induction children with
  | nil => rfl
  | cons node rest ih =>
    rw [documentedChildren, ih]
    cases hstands : standsIn parent node <;> simp [hstands]

@[simp]
theorem localName?_documentedPart (node : Node) :
    (documentedPart node).localName? = node.localName? := by
  cases node <;> rfl

/-- Of the values that are picked under some keys, each can be read back. -/
theorem lookup_filterMap (value : String → Option String) (key : String) (keys : List String) :
    (keys.filterMap fun key => (value key).map ((⟨none, key⟩ : ExpandedName), ·)).lookup
      ⟨none, key⟩ = if key ∈ keys then value key else none := by
  induction keys with
  | nil => rfl
  | cons first rest ih =>
    rcases eq_or_ne key first with rfl | hne
    · cases hvalue : value key with
      | none => simp [hvalue, ih]
      | some found => simp [hvalue]
    · have hother : ((⟨none, key⟩ : ExpandedName) == ⟨none, first⟩) = false := by simpa using hne
      cases hvalue : value first with
      | none => simp [hvalue, ih, hne]
      | some found => simp [hvalue, ih, hne, List.lookup_cons, hother]

section Node

variable {node : Node} {parent child : String}

theorem attribute?_documentedPart (key : String) (hname : node.localName? = some parent)
    (hkey : key ∈ attributesOf parent) :
    (documentedPart node).attribute? key = node.attribute? key := by
  cases node with
  | text content => cases hname
  | element name attributes children =>
    cases hname
    have hread := lookup_filterMap (fun key => attributes.lookup ⟨none, key⟩) key
      (attributesOf name.name)
    rw [if_pos hkey] at hread
    exact hread

theorem filledAttribute?_documentedPart (key : String) (hname : node.localName? = some parent)
    (hkey : key ∈ attributesOf parent) :
    (documentedPart node).filledAttribute? key = node.filledAttribute? key := by
  simp only [Node.filledAttribute?, attribute?_documentedPart key hname hkey]

theorem localName?_of_mem_childrenNamed {inner : Node}
    (hmem : inner ∈ node.childrenNamed child) : inner.localName? = some child := by
  simpa using (List.mem_filter.1 hmem).2

theorem filter_named_map_documentedPart (nodes : List Node) :
    (nodes.map documentedPart).filter (·.localName? == some child) =
      (nodes.filter (·.localName? == some child)).map documentedPart := by
  rw [List.filter_map]
  simp [Function.comp_def]

theorem childrenNamed_documentedPart (hname : node.localName? = some parent)
    (hadmits : admits parent child = true) :
    (documentedPart node).childrenNamed child = (node.childrenNamed child).map documentedPart := by
  cases node with
  | text content => cases hname
  | element name attributes children =>
    cases hname
    -- What was struck out has no admitted name, so the search would have passed it over.
    have hstands : ∀ inner : Node,
        (inner.localName? == some child && standsIn name.name inner) =
          (inner.localName? == some child) := by
      intro inner
      rcases eq_or_ne inner.localName? (some child) with hchild | hother
      · simp [standsIn, hchild, hadmits]
      · simp [hother]
    change (documentedChildren name.name children).filter _ = _
    rw [documentedChildren_eq, filter_named_map_documentedPart, List.filter_filter]
    simp only [hstands]
    rfl

end Node

section Lists

variable {nodes : List Node} {parent child key : String}

theorem flatMap_childrenNamed_documentedPart
    (hnames : ∀ node ∈ nodes, node.localName? = some parent)
    (hadmits : admits parent child = true) :
    (nodes.map documentedPart).flatMap (·.childrenNamed child) =
      (nodes.flatMap (·.childrenNamed child)).map documentedPart := by
  rw [List.flatMap_map, List.map_flatMap]
  apply List.flatMap_congr
  intro node hmem
  exact childrenNamed_documentedPart (hnames node hmem) hadmits

theorem filter_attribute?_documentedPart {value : String}
    (hnames : ∀ node ∈ nodes, node.localName? = some parent) (hkey : key ∈ attributesOf parent) :
    (nodes.map documentedPart).filter (·.attribute? key == some value) =
      (nodes.filter (·.attribute? key == some value)).map documentedPart := by
  rw [List.filter_map]
  congr 1
  apply List.filter_congr
  intro node hmem
  simp only [Function.comp_apply, attribute?_documentedPart key (hnames node hmem) hkey]

theorem localName?_of_mem_flatMap {inner : Node}
    (hmem : inner ∈ nodes.flatMap (·.childrenNamed child)) : inner.localName? = some child := by
  obtain ⟨node, -, hinner⟩ := List.mem_flatMap.1 hmem
  exact localName?_of_mem_childrenNamed hinner

end Lists

section Element

variable {element : Node} (hservice : element.localName? = some "service")

include hservice

theorem definitionOf_documentedPart :
    Entry.definitionOf (documentedPart element) = Entry.definitionOf element := by
  have hread (key : String) (hkey : key ∈ attributesOf "service") :
      (documentedPart element).attribute? key = element.attribute? key :=
    attribute?_documentedPart key hservice hkey
  simp only [Entry.definitionOf, hread "class" (by decide),
    hread "public" (by decide), hread "alias" (by decide)]

theorem locatedIn_documentedPart :
    Entry.locatedIn (documentedPart element) = Entry.locatedIn element := by
  have houter : ∀ outer ∈ element.childrenNamed "argument",
      outer.localName? = some "argument" := fun _ => localName?_of_mem_childrenNamed
  simp only [Entry.locatedIn]
  rw [childrenNamed_documentedPart hservice rfl,
    flatMap_childrenNamed_documentedPart houter rfl, List.filterMap_map]
  congr 1
  apply List.filterMap_congr
  intro argument hmem
  have hargument := localName?_of_mem_flatMap hmem
  simp only [Function.comp_apply,
    filledAttribute?_documentedPart "key" hargument (by decide),
    filledAttribute?_documentedPart "id" hargument (by decide)]

theorem madeFrom?_documentedPart :
    Entry.madeFrom? (documentedPart element) = Entry.madeFrom? element := by
  unfold Entry.madeFrom?
  rw [childrenNamed_documentedPart hservice rfl, List.head?_map]
  cases hhead : (element.childrenNamed "factory").head? with
  | none => rfl
  | some factory =>
    have hfactory : factory.localName? = some "factory" :=
      localName?_of_mem_childrenNamed (List.mem_of_mem_head? hhead)
    simp only [Option.map_some, Option.bind_eq_bind, Option.bind_some,
      attribute?_documentedPart "method" hfactory (by decide),
      filledAttribute?_documentedPart "service" hfactory (by decide)]

theorem handed?_documentedPart :
    Entry.handed? (documentedPart element) = Entry.handed? element := by
  have hcalls : ∀ call ∈ element.childrenNamed "call", call.localName? = some "call" :=
    fun _ => localName?_of_mem_childrenNamed
  have hsetters : ∀ call ∈ (element.childrenNamed "call").filter
      (·.attribute? "method" == some "setContainer"), call.localName? = some "call" :=
    fun call hmem => hcalls call (List.mem_of_mem_filter hmem)
  simp only [Entry.handed?]
  rw [childrenNamed_documentedPart hservice rfl,
    filter_attribute?_documentedPart hcalls (by decide),
    flatMap_childrenNamed_documentedPart hsetters rfl,
    filter_attribute?_documentedPart (fun _ => localName?_of_mem_flatMap) (by decide),
    List.filterMap_map]
  congr 1
  apply List.filterMap_congr
  intro argument hmem
  have hargument := localName?_of_mem_flatMap (List.mem_of_mem_filter hmem)
  exact filledAttribute?_documentedPart "id" hargument (by decide)

/-- An element says the same of its service without what is not documented. -/
theorem ofElement?_documentedPart :
    Entry.ofElement? (documentedPart element) = Entry.ofElement? element := by
  unfold Entry.ofElement?
  rw [filledAttribute?_documentedPart "id" hservice (by decide),
    definitionOf_documentedPart hservice, locatedIn_documentedPart hservice,
    madeFrom?_documentedPart hservice, handed?_documentedPart hservice]

end Element

/-- The service elements of the documented part are the documented parts of the service elements. -/
theorem elements_documented (root : Node) :
    Entry.elements (documented root) = (Entry.elements root).map documentedPart := by
  have hblocks : ∀ block ∈ root.childrenNamed "services", block.localName? = some "services" :=
    fun _ => localName?_of_mem_childrenNamed
  have hkept : (documented root).childrenNamed "services" =
      (root.childrenNamed "services").map documentedPart := by
    change ((root.childrenNamed "services").map documentedPart).filter _ = _
    rw [filter_named_map_documentedPart]
    simp [Node.childrenNamed, List.filter_filter]
  unfold Entry.elements
  rw [hkept, flatMap_childrenNamed_documentedPart hblocks rfl]

/-- Striking out all that is not documented leaves the dump as it is. -/
theorem ofDocument_documented (root : Node) : ofDocument (documented root) = ofDocument root := by
  have hentries : Entry.listOf (documented root) = Entry.listOf root := by
    unfold Entry.listOf
    rw [elements_documented, List.filterMap_map]
    apply List.filterMap_congr
    intro element hmem
    exact ofElement?_documentedPart (localName?_of_mem_flatMap hmem)
  rw [ofDocument, hentries, ofDocument]

/-- Two documents that are the same in what is documented give the same dump: the same definitions
and the same locators, and so the same services and class names and the same answer to every
look-up. -/
theorem dump_depends_on_documented_parts (first second : Node)
    (hsame : documented first = documented second) :
    ofDocument first = ofDocument second ∧
      (ofDocument first).services = (ofDocument second).services ∧
      (ofDocument first).classNames = (ofDocument second).classNames ∧
      ∀ id context, (ofDocument first).find? id context = (ofDocument second).find? id context := by
  have hdump : ofDocument first = ofDocument second := by
    rw [← ofDocument_documented first, hsame, ofDocument_documented]
  refine ⟨hdump, ?_⟩
  rw [hdump]
  exact ⟨rfl, rfl, fun _ _ => rfl⟩

/-- A controller is handed a locator: once with nothing around it, and once with mixed namespaces,
text, further attributes, and look-alike elements where services are not defined. -/
theorem look_up_in_decorated_document :
    let spaced (name : String) (attributes : List (ExpandedName × String)) (children : List Node) :
        Node := .element ⟨some "dic", name⟩ attributes children
    let handing : Node := plainElement "call" [("method", "setContainer")]
      [plainElement "argument" [("id", "locator"), ("type", "service")] []]
    let locator : Node := plainElement "service" [("id", "locator")]
      [plainElement "argument" [] [plainElement "argument" [("key", "mail"), ("id", "smtp")] []]]
    let plain : Node := documentOf
      [plainElement "service" [("class", "Home"), ("id", "home")] [handing], locator]
    let decorated : Node := spaced "kernel" [(⟨none, "id"⟩, "app")]
      [.text "\n", plainElement "service" [("id", "stray"), ("class", "Stray")] [],
        spaced "services" [(⟨none, "public"⟩, "true")]
          [spaced "service"
              [(⟨none, "id"⟩, "home"), (⟨some "dic", "id"⟩, "other"), (⟨none, "class"⟩, "Home"),
                (⟨none, "lazy"⟩, "true")]
              [.text "home", plainElement "services" [] [locator],
                spaced "call" [(⟨none, "method"⟩, "setContainer"), (⟨none, "id"⟩, "call")]
                  [.text " ", spaced "argument"
                    [(⟨none, "type"⟩, "service"), (⟨none, "id"⟩, "locator")] []]],
            plainElement "defaults" [("public", "true")] [], locator]]
    (ofDocument decorated).find? "mail" (some "Home") =
        (ofDocument plain).find? "mail" (some "Home") ∧
      (ofDocument decorated).services = (ofDocument plain).services := by
  intro spaced handing locator plain decorated
  have hsame : documented decorated = documented plain := by rfl
  obtain ⟨-, hservices, -, hfind⟩ :=
    dump_depends_on_documented_parts decorated plain hsame
  exact ⟨hfind "mail" (some "Home"), hservices⟩

end ServiceWiring.Dump
