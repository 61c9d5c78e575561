import Mathlib.Data.List.Perm.Subperm
import ServiceWiring.Proofs.Subscriptions

/-!
The walk back through the factories of a locator. It remembers the services that it has met, and it
ends at the first one with contents, behind one that no factory makes, or at one that it has met
before. Whatever chains and circles the factories form, the walk comes to an end, and it misses
nothing: before the first service with contents no service is met twice.
-/

namespace ServiceWiring

namespace Trail

variable {α : Type} {next : String → Option String} {answer : String → Option α}
  {links : Table String} {key place : String} {rounds : Nat}

/-- A walk along a trail: the keys that it has met, and the one that it comes to next. -/
structure Walk where
  met : List String
  ahead : Option String

namespace Walk

def start (key : String) : Walk := ⟨[], some key⟩

/-- One round of a walk. It ends the walk with the answer of the key ahead, or without an answer
where no key is ahead or one that was met before; otherwise the walk goes on. -/
def step (next : String → Option String) (answer : String → Option α) (walk : Walk) :
    Walk ⊕ Option α :=
  match walk.ahead with
  | none => .inr none
  | some key =>
    if key ∈ walk.met then .inr none
    else
      match answer key with
      | some found => .inr (some found)
      | none => .inl ⟨key :: walk.met, next key⟩

def run (next : String → Option String) (answer : String → Option α) :
    (rounds : Nat) → (walk : Walk) → Walk ⊕ Option α
  | 0, walk => .inl walk
  | rounds + 1, walk =>
    match walk.step next answer with
    | .inl further => run next answer rounds further
    | .inr outcome => .inr outcome

/-- All that one round can do. -/
theorem step_cases (next : String → Option String) (answer : String → Option α) (walk : Walk) :
    (walk.ahead = none ∧ walk.step next answer = .inr none) ∨
    (∃ place ∈ walk.met, walk.ahead = some place ∧ walk.step next answer = .inr none) ∨
    (∃ place found, walk.ahead = some place ∧ answer place = some found ∧
      walk.step next answer = .inr (some found)) ∨
    (∃ place, walk.ahead = some place ∧ place ∉ walk.met ∧ answer place = none ∧
      walk.step next answer = .inl ⟨place :: walk.met, next place⟩) := by
  cases hahead : walk.ahead with
  | none => exact .inl ⟨rfl, by simp [step, hahead]⟩
  | some place =>
    right
    by_cases hmet : place ∈ walk.met
    · exact .inl ⟨place, hmet, rfl, by simp [step, hahead, hmet]⟩
    · right
      cases hanswer : answer place with
      | some found => exact .inl ⟨place, found, rfl, hanswer, by simp [step, hahead, hmet, hanswer]⟩
      | none => exact .inr ⟨place, rfl, hmet, hanswer, by simp [step, hahead, hmet, hanswer]⟩

/-- What holds of a walk from `key` that has not ended within some rounds: in each of them it met
the next key of the trail for the first time, and found no answer. -/
structure Along (links : Table String) (answer : String → Option α) (key : String) (rounds : Nat)
    (walk : Walk) : Prop where
  ahead : walk.ahead = keyAt? links.get? key rounds
  met : ∀ place ∈ walk.met, ∃ earlier < rounds, keyAt? links.get? key earlier = some place
  nodup : walk.met.Nodup
  length : walk.met.length = rounds
  unanswered : ∀ earlier < rounds, ∀ place, keyAt? links.get? key earlier = some place →
    answer place = none
  rounds_le : rounds ≤ links.size + 1

theorem along_start : Along links answer key 0 (start key) where
  ahead := rfl
  met := List.forall_mem_nil _
  nodup := List.nodup_nil
  length := rfl
  unanswered := by omega
  rounds_le := Nat.zero_le _

namespace Along

variable {walk : Walk}

/-- While a key is ahead, every key that was met has a link to the one after it, so no more keys
were met than the table has links. -/
theorem rounds_le_size (h : Along links answer key rounds walk) (hahead : walk.ahead = some place) :
    rounds ≤ links.size := by
  have hreach : keyAt? links.get? key rounds = some place := h.ahead.symm.trans hahead
  have hlinked : walk.met ⊆ links.keys := by
    intro here hmet
    obtain ⟨earlier, hlt, hhere⟩ := h.met here hmet
    obtain ⟨same, following, hsame, hlink⟩ := exists_next_of_lt hreach hlt
    rw [hhere, Option.some.injEq] at hsame
    exact Table.mem_keys_of_get? (hsame ▸ hlink)
  calc
    rounds = walk.met.length := h.length.symm
    _ ≤ links.keys.length := (h.nodup.subperm hlinked).length_le
    _ = links.size := links.length_keys

/-- A round that does not end the walk takes it to the next key of the trail. -/
theorem onward (h : Along links answer key rounds walk) (hahead : walk.ahead = some place)
    (hfresh : place ∉ walk.met) (hanswer : answer place = none) :
    Along links answer key (rounds + 1) ⟨place :: walk.met, links.get? place⟩ := by
  have hreach : keyAt? links.get? key rounds = some place := h.ahead.symm.trans hahead
  refine ⟨?_, ?_, List.nodup_cons.2 ⟨hfresh, h.nodup⟩, congrArg (· + 1) h.length, ?_, ?_⟩
  · rw [keyAt?_succ_right, hreach, Option.bind_some]
  · intro here hmet
    rcases List.mem_cons.1 hmet with rfl | hbefore
    · exact ⟨rounds, Nat.lt_succ_self rounds, hreach⟩
    · obtain ⟨earlier, hlt, hhere⟩ := h.met here hbefore
      exact ⟨earlier, Nat.lt_succ_of_lt hlt, hhere⟩
  · intro earlier hlt here hhere
    rcases Nat.lt_succ_iff_lt_or_eq.1 hlt with hbefore | rfl
    · exact h.unanswered earlier hbefore here hhere
    · rw [hreach, Option.some.injEq] at hhere
      exact hhere ▸ hanswer
  · exact Nat.succ_le_succ (h.rounds_le_size hahead)

/-- A key with an answer is still ahead. -/
theorem le_of_answer (h : Along links answer key rounds walk) {steps : Nat} {found : α}
    (hreach : keyAt? links.get? key steps = some place) (hanswer : answer place = some found) :
    rounds ≤ steps := by
  by_contra hpassed
  rw [h.unanswered steps (by omega) place hreach] at hanswer
  cases hanswer

theorem find?_eq_none_of_end (h : Along links answer key rounds walk) (hend : walk.ahead = none) :
    find? links.get? answer links.size key = none := by
  rw [find?_size_eq_none_iff]
  intro steps there hreach
  cases hanswer : answer there with
  | none => rfl
  | some found =>
    obtain ⟨here, hhere, -⟩ := exists_keyAt?_of_le hreach (h.le_of_answer hreach hanswer)
    rw [← h.ahead, hend] at hhere
    cases hhere

/-- Behind a key that was met before, the trail goes round in a circle that has no answer. -/
theorem find?_eq_none_of_met (h : Along links answer key rounds walk)
    (hahead : walk.ahead = some place) (hmet : place ∈ walk.met) :
    find? links.get? answer links.size key = none := by
  rw [Option.eq_none_iff_forall_ne_some]
  intro found hfound
  obtain ⟨steps, -, ⟨there, hreach, hanswer⟩, hbefore⟩ := find?_eq_some_iff.1 hfound
  obtain ⟨earlier, hlt, hplace⟩ := h.met place hmet
  have hagain : keyAt? links.get? key earlier = keyAt? links.get? key rounds := by
    rw [hplace, ← h.ahead, hahead]
  exact keyAt?_ne_of_lt hreach hanswer hbefore hlt (h.le_of_answer hreach hanswer) hagain

theorem find?_eq_some_of_answer (h : Along links answer key rounds walk) {found : α}
    (hahead : walk.ahead = some place) (hanswer : answer place = some found) :
    find? links.get? answer links.size key = some found := by
  have hreach : keyAt? links.get? key rounds = some place := h.ahead.symm.trans hahead
  exact (find?_size_eq_some_iff links).2
    (finds_iff.2 ⟨rounds, place, hreach, hanswer, h.unanswered⟩)

/-- A walk that is given enough rounds ends with what the bounded search finds. -/
theorem run_eq (h : Along links answer key rounds walk) {further : Nat}
    (henough : links.size + 2 ≤ rounds + further) :
    walk.run links.get? answer further = .inr (find? links.get? answer links.size key) := by
  induction further generalizing rounds walk with
  | zero =>
    have hle := h.rounds_le
    omega
  | succ further ih =>
    rw [run]
    rcases step_cases links.get? answer walk with
      ⟨hend, hstep⟩ | ⟨place, hmet, hahead, hstep⟩ | ⟨place, found, hahead, hanswer, hstep⟩ |
      ⟨place, hahead, hfresh, hanswer, hstep⟩
    · rw [hstep, h.find?_eq_none_of_end hend]
    · rw [hstep, h.find?_eq_none_of_met hahead hmet]
    · rw [hstep, h.find?_eq_some_of_answer hahead hanswer]
    · rw [hstep]
      exact ih (h.onward hahead hfresh hanswer) (by omega)

end Along

/-- A walk has ended two rounds after it has taken as many as there are links, if not before. -/
theorem run_start (links : Table String) (answer : String → Option α) (key : String)
    {rounds : Nat} (henough : links.size + 2 ≤ rounds) :
    (start key).run links.get? answer rounds = .inr (find? links.get? answer links.size key) :=
  along_start.run_eq (by omega)

end Walk

end Trail

namespace Dump.Wiring

def FirstContents (wiring : Wiring) (locator : String) (contents : Table String) : Prop :=
  ∃ steps service, Trail.keyAt? wiring.madeFrom.get? locator steps = some service ∧
    wiring.located.get? service = some contents ∧
    ∀ earlier < steps, ∀ place, Trail.keyAt? wiring.madeFrom.get? locator earlier = some place →
      wiring.located.get? place = none

def Barren (wiring : Wiring) (locator : String) : Prop :=
  ∀ steps service, Trail.keyAt? wiring.madeFrom.get? locator steps = some service →
    wiring.located.get? service = none

def Filled (wiring : Wiring) : Prop :=
  ∀ service contents, wiring.located.get? service = some contents → contents ≠ {}

theorem filled_add {wiring : Wiring} (hfilled : wiring.Filled) (entry : Entry) :
    (wiring.add entry).Filled := by
  intro service contents hget
  by_cases hempty : entry.located.isEmpty = true
  · rw [add, if_pos hempty] at hget
    exact hfilled service contents hget
  · rw [add, if_neg hempty, Table.get?_put] at hget
    split at hget
    · cases hget
      intro hnone
      exact hempty (by rw [hnone]; rfl)
    · exact hfilled service contents hget

/-- The entries of a document record only contents that are not empty. -/
theorem filled_ofEntries (entries : List Entry) : (ofEntries entries).Filled := by
  have hfold (wiring : Wiring) (hfilled : wiring.Filled) : (entries.foldl add wiring).Filled := by
    induction entries generalizing wiring with
    | nil => exact hfilled
    | cons entry rest ih => exact ih (wiring.add entry) (filled_add hfilled entry)
  refine hfold {} ?_
  intro service contents hget
  cases hget

theorem find?_eq_some_iff_firstContents {wiring : Wiring} {locator : String}
    {contents : Table String} :
    Trail.find? wiring.madeFrom.get? wiring.located.get? wiring.madeFrom.size locator =
        some contents ↔ wiring.FirstContents locator contents :=
  (Trail.find?_size_eq_some_iff wiring.madeFrom).trans Trail.finds_iff

theorem find?_eq_none_iff_barren {wiring : Wiring} {locator : String} :
    Trail.find? wiring.madeFrom.get? wiring.located.get? wiring.madeFrom.size locator = none ↔
      wiring.Barren locator :=
  Trail.find?_size_eq_none_iff wiring.madeFrom

theorem contents_of_firstContents {wiring : Wiring} {locator : String} {contents : Table String}
    (hfirst : wiring.FirstContents locator contents) : wiring.contents locator = contents := by
  rw [Wiring.contents, find?_eq_some_iff_firstContents.2 hfirst, Option.getD_some]

/-- The walk back ends empty-handed where no service on the way has contents. -/
theorem contents_of_barren {wiring : Wiring} {locator : String} (hbarren : wiring.Barren locator) :
    wiring.contents locator = {} := by
  rw [Wiring.contents, find?_eq_none_iff_barren.2 hbarren, Option.getD_none]

/-- A locator is empty exactly if no service on the way back has contents. -/
theorem contents_eq_empty_iff {wiring : Wiring} (hfilled : wiring.Filled) (locator : String) :
    wiring.contents locator = {} ↔ wiring.Barren locator := by
  refine ⟨fun hempty => ?_, contents_of_barren⟩
  rw [← find?_eq_none_iff_barren, Option.eq_none_iff_forall_ne_some]
  intro contents hfound
  have hfirst := find?_eq_some_iff_firstContents.1 hfound
  have hnone : contents = {} := (contents_of_firstContents hfirst).symm.trans hempty
  obtain ⟨_, service, -, hget, -⟩ := hfirst
  exact hfilled service contents hget hnone

/-- What makes a service that has contents of its own does not matter. -/
theorem contents_of_same_factories {wiring : Wiring} {madeFrom : Table String}
    (hsame : ∀ service, wiring.located.get? service = none →
      madeFrom.get? service = wiring.madeFrom.get? service) (locator : String) :
    ({ wiring with madeFrom := madeFrom } : Wiring).contents locator =
      wiring.contents locator := by
  rw [Wiring.contents, Wiring.contents, Trail.find?_size_congr hsame]

/-- For any tables of contents and of factories the walk back from a locator ends, after two more
rounds than there are factories at the latest. It ends with the contents of the first service on the
way that has some, or without any exactly if no service on the way has some, and what it ends with
are the contents of the locator. What makes a service that has contents of its own does not matter.
Where no recorded contents are empty, and entries never record any that are, the contents of the
locator are empty exactly if no service on the way has some. -/
theorem walk_ends_at_first_contents :
    (∀ (wiring : Wiring) (locator : String), ∃ outcome,
      (∀ rounds, wiring.madeFrom.size + 2 ≤ rounds →
        (Trail.Walk.start locator).run wiring.madeFrom.get? wiring.located.get? rounds =
          .inr outcome) ∧
      wiring.contents locator = outcome.getD {} ∧
      (∀ contents, outcome = some contents ↔ wiring.FirstContents locator contents) ∧
      (outcome = none ↔ wiring.Barren locator) ∧
      (wiring.Filled → (wiring.contents locator = {} ↔ wiring.Barren locator)) ∧
      (∀ contents, wiring.located.get? locator = some contents →
        wiring.contents locator = contents) ∧
      ∀ madeFrom : Table String,
        (∀ service, wiring.located.get? service = none →
          madeFrom.get? service = wiring.madeFrom.get? service) →
        ({ wiring with madeFrom := madeFrom } : Wiring).contents locator =
          wiring.contents locator) ∧
    ∀ entries, (ofEntries entries).Filled := by
  refine ⟨fun wiring locator => ?_, filled_ofEntries⟩
  refine ⟨Trail.find? wiring.madeFrom.get? wiring.located.get? wiring.madeFrom.size locator,
    ?_, rfl, fun _ => find?_eq_some_iff_firstContents, find?_eq_none_iff_barren, ?_, ?_, ?_⟩
  · intro rounds henough
    exact Trail.Walk.run_start wiring.madeFrom wiring.located.get? locator henough
  · exact fun hfilled => contents_eq_empty_iff hfilled locator
  · intro contents hget
    have hfirst : wiring.FirstContents locator contents :=
      ⟨0, locator, Trail.keyAt?_zero locator, hget, by omega⟩
    exact contents_of_firstContents hfirst
  · exact fun madeFrom hsame => contents_of_same_factories hsame locator

/-- In a circle of two locators both have what stands in one of them, wherever that one is said to
be made from. A way back into a circle without contents, or into the unknown, leads to nothing. -/
theorem contents_among_circles :
    let service (id : String) (located : List (String × String)) (madeFrom : String) : Entry :=
      { id, definition := ⟨none, .internal, none⟩, located := Table.ofList located,
        madeFrom := some madeFrom, handed := none }
    let wiring := ofEntries
      [service "scoped" [] "shared", service "shared" [("mail", "smtp")] "scoped",
       service "first" [] "second", service "second" [] "third", service "third" [] "second",
       service "lost" [] "unknown"]
    let rewired : Wiring := { wiring with madeFrom := wiring.madeFrom.put "shared" "lost" }
    wiring.contents "scoped" = Table.ofList [("mail", "smtp")] ∧
      wiring.contents "shared" = Table.ofList [("mail", "smtp")] ∧
      rewired.contents "scoped" = wiring.contents "scoped" ∧
      (wiring.Barren "first" ∧ wiring.contents "first" = {}) ∧
      wiring.Barren "lost" ∧ wiring.contents "lost" = {} := by
  intro service wiring rewired
  have hfilled : wiring.Filled := walk_ends_at_first_contents.2 _
  have hsize : wiring.madeFrom.size + 2 ≤ 8 := by decide +kernel
  let walk (locator : String) :=
    (Trail.Walk.start locator).run wiring.madeFrom.get? wiring.located.get? 8
  have hnothing (locator : String) (hended : walk locator = .inr none) :
      wiring.Barren locator ∧ wiring.contents locator = {} := by
    obtain ⟨outcome, hend, -, -, hnone, hempty, -⟩ := walk_ends_at_first_contents.1 wiring locator
    have houtcome : outcome = none := Sum.inr.inj ((hend 8 hsize).symm.trans hended)
    exact ⟨hnone.1 houtcome, (hempty hfilled).2 (hnone.1 houtcome)⟩
  obtain ⟨_, -, -, -, -, -, hown, -⟩ := walk_ends_at_first_contents.1 wiring "shared"
  obtain ⟨outcome, hend, hcontents, -, -, -, -, hrewired⟩ :=
    walk_ends_at_first_contents.1 wiring "scoped"
  have hended : walk "scoped" = .inr (some (Table.ofList [("mail", "smtp")])) := rfl
  have hscoped : outcome = some (Table.ofList [("mail", "smtp")]) :=
    Sum.inr.inj ((hend 8 hsize).symm.trans hended)
  refine ⟨by rw [hcontents, hscoped, Option.getD_some], hown _ rfl, ?_, hnothing "first" rfl,
    hnothing "lost" rfl⟩
  apply hrewired
  intro id hbare
  have hother : id ≠ "shared" := by
    rintro rfl
    cases hbare
  rw [Table.get?_put, if_neg hother]

end Dump.Wiring

end ServiceWiring
