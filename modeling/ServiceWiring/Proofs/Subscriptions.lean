import ServiceWiring.Proofs.Aliases

/-!
Look-ups on behalf of a class. A class that is handed a locator finds what stands in it, and the
definitions for everything else; all other classes find the definitions only. Which locator a class
is handed and what stands in it are read off the document here, without the tables that a dump
keeps of it.
-/

namespace ServiceWiring.Dump

open Xml

def passedLocators (element : Node) : List String :=
  let calls := (element.childrenNamed "call").filter (·.attribute? "method" == some "setContainer")
  let passed := (calls.flatMap (·.childrenNamed "argument")).filter
    (·.attribute? "type" == some "service")
  passed.filterMap (·.filledAttribute? "id")

/-- The links of a document in order: a class that looks services up, or the identifier of an
element without a class, and the locator that it is handed. -/
def links (root : Node) : List (String × String) :=
  (identified root).flatMap fun (id, element) =>
    (passedLocators element).map fun locator =>
      ((element.filledAttribute? "class").getD id, locator)

def ownContents (root : Node) : List (String × Table String) :=
  (identified root).filterMap fun (id, element) =>
    if (Entry.locatedIn element).isEmpty then none else some (id, Entry.locatedIn element)

def factories (root : Node) : List (String × String) :=
  (identified root).filterMap fun (id, element) => (Entry.madeFrom? element).map (id, ·)

/-- The last link of `subscriber` names a locator, and in the first contents on the way back through
the factories `target` stands under `key`. -/
def Locates (root : Node) (subscriber key target : String) : Prop :=
  ∃ locator contents, lastValue? (links root) subscriber = some locator ∧
    Trail.Finds (lastValue? (factories root)) (lastValue? (ownContents root)) locator contents ∧
    contents.get? key = some target

/-- The links of one element all have the same subscriber, so only the last one counts. -/
private theorem lastValue?_passed (subscriber key : String) (locators : List String) :
    lastValue? (locators.map fun locator => (subscriber, locator)) key =
      if key = subscriber then locators.getLast? else none := by
  induction locators with
  | nil => simp
  | cons locator rest ih =>
    rw [List.map_cons, lastValue?_cons, ih]
    by_cases hsame : key = subscriber
    · cases rest <;> simp [hsame, List.getLast?_cons]
    · simp [hsame]

/-- The last link of a subscriber in the document is the last one of the last element with one. -/
theorem lastValue?_links (elements : List (String × Node)) (subscriber : String) :
    lastValue? (elements.flatMap fun (id, element) =>
        (passedLocators element).map fun locator =>
          ((element.filledAttribute? "class").getD id, locator)) subscriber =
      lastValue? (elements.filterMap fun (id, element) =>
        (Entry.handed? element).map ((element.filledAttribute? "class").getD id, ·))
          subscriber := by
  induction elements with
  | nil => rfl
  | cons pair rest ih =>
    obtain ⟨id, element⟩ := pair
    rw [List.flatMap_cons, lastValue?_append, ih, lastValue?_passed]
    cases hlast : (passedLocators element).getLast? with
    | none =>
      have hhanded : Entry.handed? element = none := hlast
      simp [hhanded]
    | some locator =>
      have hhanded : Entry.handed? element = some locator := hlast
      simp [hhanded, lastValue?_cons]

namespace Wiring

/-- Each table of a wiring holds the pairs that the entries add to it. -/
theorem get?_ofEntries {γ : Type} (field : Wiring → Table γ) (pair? : Entry → Option (String × γ))
    (hempty : field {} = {})
    (hadd : ∀ wiring entry, field (wiring.add entry) =
      match pair? entry with
      | some pair => (field wiring).put pair.1 pair.2
      | none => field wiring)
    (entries : List Entry) (key : String) :
    (field (ofEntries entries)).get? key = lastValue? (entries.filterMap pair?) key := by
  have hfold (wiring : Wiring) : field (entries.foldl add wiring) =
      (entries.filterMap pair?).foldl (fun t pair => t.put pair.1 pair.2) (field wiring) := by
    induction entries generalizing wiring with
    | nil => rfl
    | cons entry rest ih =>
      rw [List.foldl_cons, ih, hadd, List.filterMap_cons]
      cases pair? entry <;> rfl
  rw [ofEntries, hfold, hempty, Table.get?_foldl_put, Table.get?_emptyCollection, Option.or_none]

/-- What stands in a locator is what an unbounded walk back through the factories finds. -/
theorem get?_contents_eq_some_iff (wiring : Wiring) {locator key target : String} :
    (wiring.contents locator).get? key = some target ↔
      ∃ contents, Trail.Finds wiring.madeFrom.get? wiring.located.get? locator contents ∧
        contents.get? key = some target := by
  simp only [← Trail.find?_size_eq_some_iff]
  unfold contents
  cases hfound : Trail.find? wiring.madeFrom.get? wiring.located.get? wiring.madeFrom.size locator
    with
  | none => simp
  | some contents => simp

end Wiring

/-- Of several elements with contents for one locator the last one counts. -/
theorem get?_located_listOf (root : Node) :
    (Wiring.ofEntries (Entry.listOf root)).located.get? = lastValue? (ownContents root) := by
  funext service
  rw [Wiring.get?_ofEntries Wiring.located
    (fun entry => if entry.located.isEmpty then none else some (entry.id, entry.located)) rfl]
  · simp [ownContents, listOf_eq_map_identified, List.filterMap_map]
  · intro wiring entry
    cases hempty : entry.located.isEmpty <;> simp [Wiring.add, hempty]

theorem get?_madeFrom_listOf (root : Node) :
    (Wiring.ofEntries (Entry.listOf root)).madeFrom.get? = lastValue? (factories root) := by
  funext service
  rw [Wiring.get?_ofEntries Wiring.madeFrom (fun entry => entry.madeFrom.map (entry.id, ·)) rfl]
  · simp [factories, listOf_eq_map_identified, List.filterMap_map]
  · intro wiring entry
    cases hmade : entry.madeFrom <;> simp [Wiring.add, hmade]

theorem get?_handed_listOf (root : Node) (subscriber : String) :
    (Wiring.ofEntries (Entry.listOf root)).handed.get? subscriber =
      lastValue? (links root) subscriber := by
  rw [Wiring.get?_ofEntries Wiring.handed (fun entry => entry.handed.map (entry.subscriber, ·)) rfl]
  · rw [links, lastValue?_links, listOf_eq_map_identified, List.filterMap_map]
    rfl
  · intro wiring entry
    cases hhanded : entry.handed <;> simp [Wiring.add, hhanded]

/-- A dump locates exactly what its document does. -/
theorem located?_eq_some_iff (root : Node) {subscriber key target : String} :
    (ofDocument root).located? (some subscriber) key = some target ↔
      Locates root subscriber key target := by
  have hlocators : (ofDocument root).locators.get? subscriber =
      (lastValue? (links root) subscriber).map (Wiring.ofEntries (Entry.listOf root)).contents := by
    rw [← get?_handed_listOf]
    exact Table.get?_map _ _ subscriber
  have hlocated : (ofDocument root).located? (some subscriber) key =
      ((lastValue? (links root) subscriber).map
        (Wiring.ofEntries (Entry.listOf root)).contents).bind (·.get? key) := by
    rw [← hlocators]
    rfl
  rw [hlocated, Option.bind_eq_some_iff]
  constructor
  · rintro ⟨contents, hcontents, htarget⟩
    obtain ⟨locator, hlink, rfl⟩ := Option.map_eq_some_iff.1 hcontents
    obtain ⟨found, hfinds, hget⟩ := (Wiring.get?_contents_eq_some_iff _).1 htarget
    rw [get?_madeFrom_listOf, get?_located_listOf] at hfinds
    exact ⟨locator, found, hlink, hfinds, hget⟩
  · rintro ⟨locator, found, hlink, hfinds, hget⟩
    rw [← get?_madeFrom_listOf, ← get?_located_listOf] at hfinds
    refine ⟨_, Option.map_eq_some_iff.2 ⟨locator, hlink, rfl⟩, ?_⟩
    exact (Wiring.get?_contents_eq_some_iff _).2 ⟨found, hfinds, hget⟩

/-- A subscriber finds what its locator has under the key, as a service open to it. -/
theorem find?_of_located {root : Node} {subscriber id target : String}
    (hlocates : Locates root subscriber id target) :
    (ofDocument root).find? id (some subscriber) =
      some ⟨id, (ofDocument root).classOf? target, .exposed⟩ := by
  rw [find?, (located?_eq_some_iff root).2 hlocates]

theorem find?_of_not_located {root : Node} {subscriber id : String}
    (habsent : ¬ ∃ target, Locates root subscriber id target) :
    (ofDocument root).find? id (some subscriber) = (ofDocument root).find? id none := by
  have hnone : (ofDocument root).located? (some subscriber) id = none := by
    rw [Option.eq_none_iff_forall_ne_some]
    intro target htarget
    exact habsent ⟨target, (located?_eq_some_iff root).1 htarget⟩
  rw [find?, hnone]
  rfl

/-- Look-ups depend on the definitions and on what each class is handed. -/
theorem find?_congr {first second : Node}
    (hdefined : ∀ id,
      (ofDocument first).definitions.get? id = (ofDocument second).definitions.get? id)
    (hlocates : ∀ subscriber key target,
      Locates first subscriber key target ↔ Locates second subscriber key target)
    (id : String) (context : Option String) :
    (ofDocument first).find? id context = (ofDocument second).find? id context := by
  cases context with
  | none => exact find?_alone_congr hdefined id
  | some subscriber =>
    by_cases hlocated : ∃ target, Locates first subscriber id target
    · obtain ⟨target, htarget⟩ := hlocated
      have hother := (hlocates subscriber id target).1 htarget
      rw [find?_of_located htarget, find?_of_located hother, classOf?_congr hdefined]
    · have hother : ¬ ∃ target, Locates second subscriber id target := by
        simpa only [hlocates] using hlocated
      rw [find?_of_not_located hlocated, find?_of_not_located hother]
      exact find?_alone_congr hdefined id

/-- A look-up on behalf of a class differs from one on behalf of nobody only if the locator that
the class is handed last has the identifier as a key. It then finds an exposed service with the
class at the end of the aliases of the target. So asking for a class loses no service and hides
none, and changes nothing for a class that is handed no locator. -/
theorem find?_scoped_exactly (root : Node) (subscriber id : String) :
    (∀ target, Locates root subscriber id target → ∃ className,
      (ofDocument root).find? id (some subscriber) = some ⟨id, className, .exposed⟩ ∧
        (∀ c, className = some c ↔ ∃ hops ≤ 32, ∃ own,
          (ofDocument root).LeadsTo target hops own ∧ own.className = some c) ∧
        ((ofDocument root).definitions.get? target = none → className = none)) ∧
    ((¬ ∃ target, Locates root subscriber id target) →
      (ofDocument root).find? id (some subscriber) = (ofDocument root).find? id none) ∧
    (∀ service, (ofDocument root).find? id none = some service → ∃ answer,
      (ofDocument root).find? id (some subscriber) = some answer ∧ answer.id = service.id ∧
        (service.isExposed = true → answer.isExposed = true)) ∧
    (subscriber ∉ keysOf (links root) →
      (ofDocument root).find? id (some subscriber) = (ofDocument root).find? id none) := by
  refine ⟨?_, find?_of_not_located, ?_, ?_⟩
  · intro target hlocates
    refine ⟨(ofDocument root).classOf? target, find?_of_located hlocates, ?_, ?_⟩
    · exact fun c => classOf?_eq_some_iff
    · exact fun hunknown => classOf?_of_dangling (Trail.keyAt?_zero target) hunknown
  · intro service hfound
    by_cases hlocates : ∃ target, Locates root subscriber id target
    · obtain ⟨target, htarget⟩ := hlocates
      obtain ⟨definition, -, rfl⟩ := Option.map_eq_some_iff.1 hfound
      exact ⟨_, find?_of_located htarget, rfl, fun _ => rfl⟩
    · exact ⟨service, (find?_of_not_located hlocates).trans hfound, rfl, fun h => h⟩
  · intro hunlinked
    apply find?_of_not_located
    rintro ⟨target, locator, contents, hlink, -⟩
    rw [lastValue?_eq_none_iff.2 hunlinked] at hlink
    cases hlink

/-- Through its second locator and a factory the controller finds the mailer, which is unknown to
everybody else. -/
theorem find?_mailingDocument :
    (ofDocument mailingDocument).find? "mail" (some "Home") =
        some ⟨"mail", some "Smtp", .exposed⟩ ∧
      (ofDocument mailingDocument).find? "mail" (some "Smtp") =
        (ofDocument mailingDocument).find? "mail" none := by
  have hlocates : Locates mailingDocument "Home" "mail" "mailer" :=
    ⟨"scoped", Table.ofList [("mail", "mailer")], by decide +kernel,
      .onward rfl (by decide +kernel : _ = some "shared") (.here rfl), by decide +kernel⟩
  obtain ⟨className, hfound, hclass, -⟩ :=
    (find?_scoped_exactly mailingDocument "Home" "mail").1 "mailer" hlocates
  have hsmtp : className = some "Smtp" := (hclass "Smtp").2
    ⟨1, by decide, ⟨some "Smtp", .internal, none⟩,
      ⟨"smtp", by decide +kernel, by decide +kernel, rfl⟩, rfl⟩
  exact ⟨hsmtp ▸ hfound,
    (find?_scoped_exactly mailingDocument "Smtp" "mail").2.2.2 (by decide +kernel)⟩

end ServiceWiring.Dump
