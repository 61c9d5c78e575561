import ServiceWiring.Proofs.Subscriptions

/-!
Documents that define a service more than once. The last element with an identifier is the one that
defines the service, and the elements before it could be struck out of the document as far as
classes, aliases and visibilities go. What they say about locators stays, unless elements that are
not struck out say the same kind of thing later on.
-/

namespace ServiceWiring

variable {β γ : Type}

/-- The pairs whose key stands neither in a pair behind them nor in `later`. -/
def latest (later : List String) : List (String × β) → List (String × β)
  | [] => []
  | pair :: rest =>
    if pair.1 ∈ keysOf rest ++ later then latest later rest else pair :: latest later rest

theorem latest_append (later : List String) (first second : List (String × β)) :
    latest later (first ++ second) =
      latest (keysOf second ++ later) first ++ latest later second := by
  induction first with
  | nil => rfl
  | cons pair rest ih =>
    have hkeys : keysOf (rest ++ second) ++ later =
        keysOf rest ++ (keysOf second ++ later) := by
      simp [keysOf]
    rw [List.cons_append, latest, latest, hkeys, ih]
    split <;> rfl

/-- Of the pairs with one key the last one is left. -/
theorem lastValue?_latest (pairs : List (String × β)) (key : String) :
    lastValue? (latest [] pairs) key = lastValue? pairs key := by
  induction pairs with
  | nil => rfl
  | cons pair rest ih =>
    rw [latest, List.append_nil, lastValue?_cons]
    by_cases hlater : pair.1 ∈ keysOf rest
    · rw [if_pos hlater, ih]
      by_cases hsame : key = pair.1
      · obtain ⟨value, hvalue⟩ := exists_lastValue?_iff.2 hlater
        rw [hsame, hvalue, Option.some_or]
      · rw [if_neg hsame, Option.or_none]
    · rw [if_neg hlater, lastValue?_cons, ih]

/-- What `f` reads off a pair whose key comes again, it reads under the same key off some pair
behind it whose own key does not come again. -/
def Superseded (f : String × β → Option (String × γ)) : List (String × β) → Prop
  | [] => True
  | pair :: rest =>
    (pair.1 ∈ keysOf rest → ∀ out ∈ f pair, out.1 ∈ keysOf ((latest [] rest).filterMap f)) ∧
      Superseded f rest

instance decidableSuperseded (f : String × β → Option (String × γ)) :
    (pairs : List (String × β)) → Decidable (Superseded f pairs)
  | [] => .isTrue trivial
  | pair :: rest =>
    have := decidableSuperseded f rest
    inferInstanceAs (Decidable
      ((pair.1 ∈ keysOf rest → ∀ out ∈ f pair, out.1 ∈ keysOf ((latest [] rest).filterMap f)) ∧
        Superseded f rest))

/-- Pairs that are superseded may be left out before the last value is taken. -/
theorem lastValue?_filterMap_latest {f : String × β → Option (String × γ)}
    {pairs : List (String × β)} (hsuperseded : Superseded f pairs) (key : String) :
    lastValue? ((latest [] pairs).filterMap f) key = lastValue? (pairs.filterMap f) key := by
  induction pairs with
  | nil => rfl
  | cons pair rest ih =>
    obtain ⟨hagain, hrest⟩ := hsuperseded
    have hkept := ih hrest
    rw [latest, List.append_nil]
    by_cases hlater : pair.1 ∈ keysOf rest
    · rw [if_pos hlater]
      cases hread : f pair with
      | none => rw [List.filterMap_cons_none hread, hkept]
      | some out =>
        rw [List.filterMap_cons_some hread, lastValue?_cons, ← hkept]
        by_cases hsame : key = out.1
        · obtain ⟨value, hvalue⟩ := exists_lastValue?_iff.2 (hagain hlater out hread)
          rw [hsame, hvalue, Option.some_or]
        · rw [if_neg hsame, Option.or_none]
    · rw [if_neg hlater]
      cases hread : f pair with
      | none => rw [List.filterMap_cons_none hread, List.filterMap_cons_none hread, hkept]
      | some out =>
        rw [List.filterMap_cons_some hread, List.filterMap_cons_some hread, lastValue?_cons,
          lastValue?_cons, hkept]

namespace Dump

open Xml

def serviceId? (node : Node) : Option String :=
  if node.localName? = some "service" then node.filledAttribute? "id" else none

def identifiedAmong (nodes : List Node) : List (String × Node) :=
  nodes.filterMap fun node => (serviceId? node).map (·, node)

def identifiedInBlocks (nodes : List Node) : List (String × Node) :=
  (nodes.filter (·.localName? == some "services")).flatMap (identifiedAmong ·.children)

/-- Strikes out the service elements whose identifier comes again, behind them or in `later`. -/
def strikeOverridden (later : List String) : List Node → List Node
  | [] => []
  | node :: rest =>
    if (serviceId? node).any (keysOf (identifiedAmong rest) ++ later).contains then
      strikeOverridden later rest
    else node :: strikeOverridden later rest

def withChildren : Node → List Node → Node
  | .text content, _ => .text content
  | .element name attributes _, children => .element name attributes children

def strikeInBlocks : List Node → List Node
  | [] => []
  | node :: rest =>
    (if node.localName? = some "services" then
        withChildren node (strikeOverridden (keysOf (identifiedInBlocks rest)) node.children)
      else node) :: strikeInBlocks rest

/-- The document without the service elements that a later one with the same identifier overrides.
-/
def withoutOverridden (root : Node) : Node := withChildren root (strikeInBlocks root.children)

theorem identified_eq (root : Node) : identified root = identifiedInBlocks root.children := by
  have hamong (nodes : List Node) :
      (nodes.filter (·.localName? == some "service")).filterMap
        (fun element => (element.filledAttribute? "id").map (·, element)) =
      identifiedAmong nodes := by
    rw [List.filterMap_filter]
    congr 1
    funext node
    by_cases hservice : node.localName? = some "service" <;> simp [serviceId?, hservice]
  simp only [identified, Entry.elements, List.filterMap_flatMap, identifiedInBlocks, ← hamong]
  rfl

theorem identifiedAmong_strikeOverridden (later : List String) (nodes : List Node) :
    identifiedAmong (strikeOverridden later nodes) = latest later (identifiedAmong nodes) := by
  induction nodes with
  | nil => rfl
  | cons node rest ih =>
    cases hid : serviceId? node with
    | none => simpa [strikeOverridden, identifiedAmong, hid] using ih
    | some id =>
      have hcons (nodes : List Node) :
          identifiedAmong (node :: nodes) = (id, node) :: identifiedAmong nodes := by
        simp [identifiedAmong, hid]
      rw [strikeOverridden, hcons, latest, hid]
      by_cases hagain : id ∈ keysOf (identifiedAmong rest) ++ later
      · rw [if_pos hagain, if_pos (by simpa using hagain), ih]
      · rw [if_neg hagain, if_neg (by simpa using hagain), hcons, ih]

theorem identifiedInBlocks_strikeInBlocks (nodes : List Node) :
    identifiedInBlocks (strikeInBlocks nodes) = latest [] (identifiedInBlocks nodes) := by
  induction nodes with
  | nil => rfl
  | cons node rest ih =>
    by_cases hblock : node.localName? = some "services"
    · cases node with
      | text content => cases hblock
      | element name attributes children =>
        have hcons (inner nodes : List Node) :
            identifiedInBlocks (.element name attributes inner :: nodes) =
              identifiedAmong inner ++ identifiedInBlocks nodes := by
          have hname : some name.name = some "services" := hblock
          simp [identifiedInBlocks, Node.localName?, Node.children, hname]
        rw [strikeInBlocks, if_pos hblock, withChildren, hcons, hcons, latest_append,
          List.append_nil, ih, identifiedAmong_strikeOverridden]
        rfl
    · have hcons (nodes : List Node) :
          identifiedInBlocks (node :: nodes) = identifiedInBlocks nodes := by
        simp [identifiedInBlocks, hblock]
      rw [strikeInBlocks, if_neg hblock, hcons, hcons, ih]

/-- Of the service elements with one identifier the last one is left. -/
theorem identified_withoutOverridden (root : Node) :
    identified (withoutOverridden root) = latest [] (identified root) := by
  rw [identified_eq, identified_eq, ← identifiedInBlocks_strikeInBlocks]
  cases root <;> rfl

/-- An overridden element defines nothing. -/
theorem get?_definitions_withoutOverridden (root : Node) (id : String) :
    (ofDocument root).definitions.get? id =
      (ofDocument (withoutOverridden root)).definitions.get? id := by
  rw [get?_definitions_ofDocument, get?_definitions_ofDocument, identified_withoutOverridden,
    lastValue?_latest]

def contentsOf : String × Node → Option (String × Table String)
  | (id, element) =>
    if (Entry.locatedIn element).isEmpty then none else some (id, Entry.locatedIn element)

def factoryOf : String × Node → Option (String × String)
  | (id, element) => (Entry.madeFrom? element).map (id, ·)

/-- The last link of a service element: who is handed a locator, and which. -/
def linkOf : String × Node → Option (String × String)
  | (id, element) =>
    (Entry.handed? element).map ((element.filledAttribute? "class").getD id, ·)

/-- Whatever an overridden element says about locators, an element that is not overridden says the
same kind of thing later on, about the same service or to the same subscriber. -/
structure LeavesNoTrace (root : Node) : Prop where
  contents : Superseded contentsOf (identified root)
  factories : Superseded factoryOf (identified root)
  links : Superseded linkOf (identified root)

theorem locates_withoutOverridden_iff {root : Node} (htraceless : LeavesNoTrace root)
    (subscriber key target : String) :
    Locates root subscriber key target ↔
      Locates (withoutOverridden root) subscriber key target := by
  have hlinks : lastValue? (links root) subscriber =
      lastValue? (links (withoutOverridden root)) subscriber := by
    rw [links, links, lastValue?_links, lastValue?_links, identified_withoutOverridden]
    exact (lastValue?_filterMap_latest htraceless.links subscriber).symm
  have hfactories : lastValue? (factories root) =
      lastValue? (factories (withoutOverridden root)) := by
    funext service
    rw [factories, factories, identified_withoutOverridden]
    exact (lastValue?_filterMap_latest htraceless.factories service).symm
  have hcontents : lastValue? (ownContents root) =
      lastValue? (ownContents (withoutOverridden root)) := by
    funext service
    rw [ownContents, ownContents, identified_withoutOverridden]
    exact (lastValue?_filterMap_latest htraceless.contents service).symm
  rw [Locates, Locates, hlinks, hfactories, hcontents]

/-- Compare a document that defines services more than once with the same document from which all
but the last element of each service have been struck out. On behalf of nobody every service is
found alike in both. On behalf of a class, what the locators of the first document have for it is
found with the class that the second document gives, and everything else as in the second document
on behalf of nobody. Where what the overridden elements say about locators is superseded, there is
no difference at all. -/
theorem overriding_replaces_definitions (root : Node) :
    (∀ id, (ofDocument root).find? id none =
      (ofDocument (withoutOverridden root)).find? id none) ∧
    (∀ subscriber id target, Locates root subscriber id target →
      (ofDocument root).find? id (some subscriber) =
        some ⟨id, (ofDocument (withoutOverridden root)).classOf? target, .exposed⟩) ∧
    (∀ subscriber id, (¬ ∃ target, Locates root subscriber id target) →
      (ofDocument root).find? id (some subscriber) =
        (ofDocument (withoutOverridden root)).find? id none) ∧
    (LeavesNoTrace root → ∀ id context, (ofDocument root).find? id context =
      (ofDocument (withoutOverridden root)).find? id context) := by
  have hdefined := get?_definitions_withoutOverridden root
  refine ⟨find?_alone_congr hdefined, ?_, ?_, ?_⟩
  · intro subscriber id target hlocates
    rw [find?_of_located hlocates, classOf?_congr hdefined]
  · intro subscriber id habsent
    rw [find?_of_not_located habsent]
    exact find?_alone_congr hdefined id
  · exact fun htraceless => find?_congr hdefined (locates_withoutOverridden_iff htraceless)

/-- The controller of this document is defined twice, and is handed a locator both times. -/
theorem overriding_in_mailingDocument :
    (ofDocument mailingDocument).find? "mail" (some "Home") =
      (ofDocument (withoutOverridden mailingDocument)).find? "mail" (some "Home") :=
  (overriding_replaces_definitions mailingDocument).2.2.2
    ⟨by decide +kernel, by decide +kernel, by decide +kernel⟩ "mail" (some "Home")

/-- Where a locator is defined once more without contents, a locator without its factory, or a
controller with another class, what was said first is still found. -/
theorem overridden_locators_found :
    let handed (className : String) : Node :=
      plainElement "service" [("id", "home"), ("class", className)]
        [plainElement "call" [("method", "setContainer")]
          [plainElement "argument" [("type", "service"), ("id", "scoped")] []]]
    let made := plainElement "service" [("id", "scoped")]
      [plainElement "factory" [("service", "shared"), ("method", "withContext")] []]
    let filled (id : String) : Node := plainElement "service" [("id", id)]
      [plainElement "argument" []
        [plainElement "argument" [("key", "mail"), ("id", "smtp")] []]]
    let plain (id className : String) : Node :=
      plainElement "service" [("id", id), ("class", className)] []
    ∀ root ∈
      [documentOf [handed "Home", filled "scoped", plain "scoped" "Locator", plain "smtp" "Smtp"],
       documentOf [handed "Home", made, filled "shared", plain "scoped" "Locator",
         plain "smtp" "Smtp"],
       documentOf [handed "Home", filled "scoped", plain "home" "Start", plain "smtp" "Smtp"]],
      (ofDocument root).find? "mail" (some "Home") = some ⟨"mail", some "Smtp", .exposed⟩ ∧
        (ofDocument (withoutOverridden root)).find? "mail" (some "Home") = none := by
  decide +kernel

end Dump

end ServiceWiring
