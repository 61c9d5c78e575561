import ServiceWiring.Proofs.ClassNames
import ServiceWiring.Proofs.Subscriptions

/-!
Documents with the same service elements in another order. Order decides only between elements that
define the same service or hand a locator to the same subscriber; where there are no such elements,
all that is read off a document depends on what elements it has and not on where they stand.
-/

namespace ServiceWiring.Dump

open Xml

/-- The class that looks services up in what each element hands out, or the identifier of an element
without a class. -/
def subscribers (root : Node) : List String :=
  (identified root).filterMap fun (id, element) =>
    if (passedLocators element).isEmpty then none
    else some ((element.filledAttribute? "class").getD id)

def lastLinks (root : Node) : List (String × String) :=
  (identified root).filterMap fun (id, element) =>
    (Entry.handed? element).map ((element.filledAttribute? "class").getD id, ·)

theorem keysOf_lastLinks (root : Node) : keysOf (lastLinks root) = subscribers root := by
  unfold keysOf lastLinks subscribers
  rw [List.map_filterMap]
  congr 1
  funext (id, element)
  have hhanded : Entry.handed? element = (passedLocators element).getLast? := rfl
  cases hpassed : passedLocators element with
  | nil => simp [hhanded, hpassed]
  | cons locator rest => simp [hhanded, hpassed, List.getLast?_cons]

section Order

variable {first second : Node} (hsame : (Entry.elements first).Perm (Entry.elements second))

include hsame

theorem identified_perm : (identified first).Perm (identified second) := hsame.filterMap _

theorem lastValue?_links_of_perm (hlinks : (subscribers first).Nodup) :
    lastValue? (links first) = lastValue? (links second) := by
  have hlast (root : Node) : lastValue? (links root) = lastValue? (lastLinks root) :=
    funext (lastValue?_links (identified root))
  have hdistinct : (keysOf (lastLinks first)).Nodup := by rwa [keysOf_lastLinks]
  rw [hlast, hlast]
  exact lastValue?_of_perm ((identified_perm hsame).filterMap _) hdistinct

variable (hids : (keysOf (identified first)).Nodup)

include hids

/-- What is picked from the elements under their own identifiers is the same in any order. -/
theorem lastValue?_filterMap_of_perm {γ : Type} {f : String × Node → Option (String × γ)}
    (hkey : ∀ pair out, f pair = some out → out.1 = pair.1) :
    lastValue? ((identified first).filterMap f) = lastValue? ((identified second).filterMap f) :=
  lastValue?_of_perm ((identified_perm hsame).filterMap f)
    ((keysOf_filterMap_sublist hkey _).nodup hids)

theorem lastValue?_factories_of_perm :
    lastValue? (factories first) = lastValue? (factories second) := by
  apply lastValue?_filterMap_of_perm hsame hids
  rintro ⟨id, element⟩ out hout
  obtain ⟨service, -, rfl⟩ := Option.map_eq_some_iff.1 hout
  rfl

theorem lastValue?_ownContents_of_perm :
    lastValue? (ownContents first) = lastValue? (ownContents second) := by
  apply lastValue?_filterMap_of_perm hsame hids
  rintro ⟨id, element⟩ out hout
  obtain ⟨-, hpair⟩ := Option.ite_none_left_eq_some.1 hout
  cases hpair
  rfl

theorem get?_definitions_of_perm (id : String) :
    (ofDocument first).definitions.get? id = (ofDocument second).definitions.get? id := by
  rw [get?_definitions_ofDocument, get?_definitions_ofDocument,
    lastValue?_of_perm (identified_perm hsame) hids]

/-- The class of a service does not depend on the order of the elements. -/
theorem classOf?_of_perm (id : String) :
    (ofDocument first).classOf? id = (ofDocument second).classOf? id :=
  classOf?_congr (get?_definitions_of_perm hsame hids) id

theorem find?_alone_of_perm (id : String) :
    (ofDocument first).find? id none = (ofDocument second).find? id none :=
  find?_alone_congr (get?_definitions_of_perm hsame hids) id

theorem classNames_perm : (ofDocument first).classNames.Perm (ofDocument second).classNames := by
  refine (List.perm_ext_iff_of_nodup (nodup_classNames _) (nodup_classNames _)).2 ?_
  intro className
  simp only [mem_classNames_iff, get?_definitions_of_perm hsame hids]

theorem services_perm : (ofDocument first).services.Perm (ofDocument second).services := by
  have hkeys : (ofDocument first).definitions.keys.Perm (ofDocument second).definitions.keys :=
    Table.keys_perm_of_get? (get?_definitions_of_perm hsame hids)
  have hfind : ((ofDocument first).find? · none) = ((ofDocument second).find? · none) :=
    funext (find?_alone_of_perm hsame hids)
  unfold services
  rw [hfind]
  exact hkeys.filterMap _

/-- What a subscriber is handed under a key does not depend on the order of the elements. -/
theorem locates_iff_of_perm (hlinks : (subscribers first).Nodup) (subscriber key target : String) :
    Locates first subscriber key target ↔ Locates second subscriber key target := by
  unfold Locates
  rw [lastValue?_links_of_perm hsame hlinks, lastValue?_factories_of_perm hsame hids,
    lastValue?_ownContents_of_perm hsame hids]

end Order

/-- Two documents that have the same service elements, arranged in any order and in any blocks,
answer every look-up alike and list the same services and class names, if no two of the elements
have one identifier and no two hand a locator to one subscriber. -/
theorem element_order_is_immaterial (first second : Node)
    (hsame : (Entry.elements first).Perm (Entry.elements second))
    (hids : (keysOf (identified first)).Nodup) (hlinks : (subscribers first).Nodup) :
    (∀ id context, (ofDocument first).find? id context = (ofDocument second).find? id context) ∧
      (ofDocument first).services.Perm (ofDocument second).services ∧
      (ofDocument first).classNames.Perm (ofDocument second).classNames := by
  refine ⟨?_, services_perm hsame hids, classNames_perm hsame hids⟩
  intro id context
  cases context with
  | none => exact find?_alone_of_perm hsame hids id
  | some subscriber =>
    by_cases hlocates : ∃ target, Locates first subscriber id target
    · obtain ⟨target, htarget⟩ := hlocates
      have hother := (locates_iff_of_perm hsame hids hlinks _ _ _).1 htarget
      rw [find?_of_located htarget, find?_of_located hother, classOf?_of_perm hsame hids]
    · have hother : ¬ ∃ target, Locates second subscriber id target := by
        simpa only [locates_iff_of_perm hsame hids hlinks] using hlocates
      rw [find?_of_not_located hlocates, find?_of_not_located hother]
      exact find?_alone_of_perm hsame hids id

/-- The elements of a controller, of its locator and of an alias in one block, and from the last to
the first in two. -/
theorem look_ups_in_two_arrangements :
    let home := plainElement "service" [("id", "home"), ("class", "Home")]
      [plainElement "call" [("method", "setContainer")]
        [plainElement "argument" [("type", "service"), ("id", "locator")] []]]
    let locator := plainElement "service" [("id", "locator")]
      [plainElement "argument" []
        [plainElement "argument" [("key", "mail"), ("id", "mailer")] []]]
    let mailer := plainElement "service" [("id", "mailer"), ("alias", "smtp")] []
    let smtp := plainElement "service" [("id", "smtp"), ("class", "Smtp")] []
    let first := documentOf [home, locator, mailer, smtp]
    let second := plainElement "container" []
      [plainElement "services" [] [smtp, mailer], plainElement "services" [] [locator, home]]
    (ofDocument first).find? "mail" (some "Home") =
        (ofDocument second).find? "mail" (some "Home") ∧
      (ofDocument first).services.Perm (ofDocument second).services ∧
      (ofDocument first).classNames.Perm (ofDocument second).classNames := by
  intro home locator mailer smtp first second
  have hreverse : Entry.elements second = (Entry.elements first).reverse := rfl
  have hsame : (Entry.elements first).Perm (Entry.elements second) := by
    rw [hreverse]
    exact (List.reverse_perm _).symm
  obtain ⟨hfind, hservices, hclasses⟩ :=
    element_order_is_immaterial first second hsame (by decide +kernel) (by decide +kernel)
  exact ⟨hfind "mail" (some "Home"), hservices, hclasses⟩

end ServiceWiring.Dump
