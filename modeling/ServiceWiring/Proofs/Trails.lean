import Mathlib.Data.Finset.Card
import ServiceWiring.Proofs.Tables
import ServiceWiring.Trail

/-!
How far a trail has to be followed. A trail that comes back to a key never ends, so the keys before
the first answer are all different; where the links come from a table, there are no more of them
than the table has entries. The bounded search then finds what an unbounded walk would find.
-/

namespace ServiceWiring.Trail

variable {α : Type} {next : String → Option String} {answer : String → Option α}

/-- The first key with an answer on the trail from a key, however far away, has this answer. -/
inductive Finds (next : String → Option String) (answer : String → Option α) : String → α → Prop
  | here {key : String} {found : α} : answer key = some found → Finds next answer key found
  | onward {key following : String} {found : α} : answer key = none →
      next key = some following → Finds next answer following found → Finds next answer key found

@[simp]
theorem keyAt?_zero (key : String) : keyAt? next key 0 = some key := rfl

theorem keyAt?_succ (key : String) (steps : Nat) :
    keyAt? next key (steps + 1) = (next key).bind (keyAt? next · steps) := by
  cases honward : next key <;> simp [keyAt?, honward]

/-- A walk may be cut in two at any key. -/
theorem keyAt?_add (key : String) (first second : Nat) :
    keyAt? next key (first + second) =
      (keyAt? next key first).bind (keyAt? next · second) := by
  induction first generalizing key with
  | zero => simp
  | succ first ih =>
    rw [Nat.succ_add, keyAt?_succ, keyAt?_succ]
    cases next key with
    | none => rfl
    | some following => exact ih following

theorem keyAt?_succ_right (key : String) (steps : Nat) :
    keyAt? next key (steps + 1) = (keyAt? next key steps).bind next := by
  rw [keyAt?_add]
  congr 1
  funext there
  rw [keyAt?_succ]
  cases next there <;> rfl

/-- A trail reaches every key on the way to a key that it reaches. -/
theorem exists_keyAt?_of_le {key there : String} {steps earlier : Nat}
    (hreach : keyAt? next key steps = some there) (hle : earlier ≤ steps) :
    ∃ place, keyAt? next key earlier = some place ∧
      keyAt? next place (steps - earlier) = some there := by
  have hsplit : steps = earlier + (steps - earlier) := by omega
  rw [hsplit, keyAt?_add] at hreach
  exact Option.bind_eq_some_iff.1 hreach

theorem exists_next_of_lt {key there : String} {steps earlier : Nat}
    (hreach : keyAt? next key steps = some there) (hlt : earlier < steps) :
    ∃ place following, keyAt? next key earlier = some place ∧ next place = some following := by
  obtain ⟨following, honward, -⟩ := exists_keyAt?_of_le hreach (Nat.succ_le_of_lt hlt)
  rw [keyAt?_succ_right] at honward
  obtain ⟨place, hplace, hlink⟩ := Option.bind_eq_some_iff.1 honward
  exact ⟨place, following, hplace, hlink⟩

private theorem keyAt?_rounds {key : String} {length : Nat}
    (hcircle : keyAt? next key length = some key) (rounds : Nat) :
    keyAt? next key (rounds * length) = some key := by
  induction rounds with
  | zero => simp
  | succ rounds ih => rw [Nat.succ_mul, keyAt?_add, ih, Option.bind_some, hcircle]

/-- A trail that meets a key twice never ends. -/
theorem exists_keyAt?_of_repeated {key place : String} {first second : Nat}
    (hfirst : keyAt? next key first = some place) (hsecond : keyAt? next key second = some place)
    (hlt : first < second) (steps : Nat) : ∃ there, keyAt? next key steps = some there := by
  have hcircle : keyAt? next place (second - first) = some place := by
    obtain ⟨same, hsame, hrest⟩ := exists_keyAt?_of_le hsecond (Nat.le_of_lt hlt)
    rw [hfirst, Option.some.injEq] at hsame
    rwa [← hsame] at hrest
  have hfar : keyAt? next key (first + steps * (second - first)) = some place := by
    rw [keyAt?_add, hfirst, Option.bind_some, keyAt?_rounds hcircle]
  have hle : steps ≤ first + steps * (second - first) := by
    have hpos : 1 ≤ second - first := by omega
    have hrounds : steps * 1 ≤ steps * (second - first) := Nat.mul_le_mul_left steps hpos
    omega
  obtain ⟨there, hthere, -⟩ := exists_keyAt?_of_le hfar hle
  exact ⟨there, hthere⟩

/-- Where only the last key of a trail can have an answer, the first answer is the only one. -/
theorem find?_eq_some_iff_of_ends (hends : ∀ key found, answer key = some found → next key = none)
    {bound : Nat} {key : String} {found : α} :
    find? next answer bound key = some found ↔
      ∃ steps ≤ bound, ∃ there, keyAt? next key steps = some there ∧
        answer there = some found := by
  rw [find?_eq_some_iff]
  constructor
  · rintro ⟨steps, hle, ⟨there, hreach, hanswer⟩, -⟩
    exact ⟨steps, hle, there, hreach, hanswer⟩
  · rintro ⟨steps, hle, there, hreach, hanswer⟩
    refine ⟨steps, hle, ⟨there, hreach, hanswer⟩, ?_⟩
    intro earlier hlt place hplace
    obtain ⟨same, following, hsame, hlink⟩ := exists_next_of_lt hreach hlt
    rw [hplace, Option.some.injEq] at hsame
    subst hsame
    cases hearly : answer place with
    | none => rfl
    | some early => simp [hends place early hearly] at hlink

/-- What is found within a bound is found without one. -/
theorem finds_of_find? {bound : Nat} {key : String} {found : α}
    (h : find? next answer bound key = some found) : Finds next answer key found := by
  induction bound generalizing key with
  | zero => exact .here h
  | succ bound ih =>
    cases hhere : answer key with
    | some value =>
      simp only [find?, hhere, Option.some.injEq] at h
      exact .here (h ▸ hhere)
    | none =>
      cases hlink : next key with
      | none => simp [find?, hhere, hlink] at h
      | some following =>
        simp only [find?, hhere, hlink] at h
        exact .onward hhere hlink (ih h)

/-- What is found on a trail is found within some bound. -/
theorem exists_find?_of_finds {key : String} {found : α} (h : Finds next answer key found) :
    ∃ bound, find? next answer bound key = some found := by
  induction h with
  | here hhere => exact ⟨0, hhere⟩
  | onward hhere hlink _ ih =>
    obtain ⟨bound, hbound⟩ := ih
    exact ⟨bound + 1, by simp [find?, hhere, hlink, hbound]⟩

/-- The first answer lies some number of links away, and no key before it has one. -/
theorem finds_iff {key : String} {found : α} :
    Finds next answer key found ↔
      ∃ steps there, keyAt? next key steps = some there ∧ answer there = some found ∧
        ∀ earlier < steps, ∀ place, keyAt? next key earlier = some place →
          answer place = none := by
  constructor
  · intro h
    obtain ⟨bound, hbound⟩ := exists_find?_of_finds h
    obtain ⟨steps, -, ⟨there, hreach, hanswer⟩, hbefore⟩ := find?_eq_some_iff.1 hbound
    exact ⟨steps, there, hreach, hanswer, hbefore⟩
  · rintro ⟨steps, there, hreach, hanswer, hbefore⟩
    have hfind : find? next answer steps key = some found :=
      find?_eq_some_iff.2 ⟨steps, Nat.le_refl steps, ⟨there, hreach, hanswer⟩, hbefore⟩
    exact finds_of_find? hfind

/-- Where some key of a trail has an answer, there is a first one. -/
theorem exists_finds_of_keyAt? {key there : String} {steps : Nat} {found : α}
    (hreach : keyAt? next key steps = some there) (hanswer : answer there = some found) :
    ∃ first, Finds next answer key first := by
  induction steps generalizing key with
  | zero =>
    rw [keyAt?_zero, Option.some.injEq] at hreach
    exact ⟨found, .here (hreach ▸ hanswer)⟩
  | succ steps ih =>
    cases hhere : answer key with
    | some early => exact ⟨early, .here hhere⟩
    | none =>
      rw [keyAt?_succ] at hreach
      obtain ⟨following, hlink, hrest⟩ := Option.bind_eq_some_iff.1 hreach
      obtain ⟨first, hfirst⟩ := ih hrest
      exact ⟨first, .onward hhere hlink hfirst⟩

/-- Before the first answer no key occurs twice: the trail would lead past the answer once more,
and closer. -/
theorem keyAt?_ne_of_lt {key there : String} {steps : Nat} {found : α}
    (hreach : keyAt? next key steps = some there) (hanswer : answer there = some found)
    (hbefore : ∀ earlier < steps, ∀ place, keyAt? next key earlier = some place →
      answer place = none)
    {first second : Nat} (hlt : first < second) (hle : second ≤ steps) :
    keyAt? next key first ≠ keyAt? next key second := by
  intro hsame
  obtain ⟨place, hplace, hrest⟩ := exists_keyAt?_of_le hreach hle
  have hcloser : keyAt? next key (first + (steps - second)) = some there := by
    rw [keyAt?_add, hsame, hplace, Option.bind_some, hrest]
  have hnone := hbefore (first + (steps - second)) (by omega) there hcloser
  simp [hnone] at hanswer

/-- The keys before the first answer are different keys of the table that holds the links. -/
private theorem steps_le_size {links : Table String} {key there : String} {steps : Nat} {found : α}
    (hreach : keyAt? links.get? key steps = some there) (hanswer : answer there = some found)
    (hbefore : ∀ earlier < steps, ∀ place, keyAt? links.get? key earlier = some place →
      answer place = none) : steps ≤ links.size := by
  let place (i : Nat) : String := (keyAt? links.get? key i).getD ""
  have hplace : ∀ i < steps, keyAt? links.get? key i = some (place i) ∧ place i ∈ links.keys := by
    intro i hi
    obtain ⟨here, following, hhere, hlink⟩ := exists_next_of_lt hreach hi
    have hsame : place i = here := by simp [place, hhere]
    rw [hsame]
    exact ⟨hhere, Table.mem_keys_of_get? hlink⟩
  have hmaps : ∀ i ∈ Finset.range steps, place i ∈ links.keys.toFinset := by
    intro i hi
    exact List.mem_toFinset.2 (hplace i (Finset.mem_range.1 hi)).2
  have hinj : Set.InjOn place (Finset.range steps) := by
    intro i hi j hj hsame
    have hilt : i < steps := Finset.mem_range.1 hi
    have hjlt : j < steps := Finset.mem_range.1 hj
    have heq : keyAt? links.get? key i = keyAt? links.get? key j := by
      rw [(hplace i hilt).1, (hplace j hjlt).1, hsame]
    rcases Nat.lt_trichotomy i j with hlt | hij | hgt
    · exact absurd heq (keyAt?_ne_of_lt hreach hanswer hbefore hlt (by omega))
    · exact hij
    · exact absurd heq.symm (keyAt?_ne_of_lt hreach hanswer hbefore hgt (by omega))
  calc
    steps = (Finset.range steps).card := (Finset.card_range steps).symm
    _ ≤ links.keys.toFinset.card := Finset.card_le_card_of_injOn place hmaps hinj
    _ ≤ links.keys.length := List.toFinset_card_le links.keys
    _ = links.size := links.length_keys

/-- With the links of a table, a search of as many links as the table has entries finds all that an
unbounded walk finds. -/
theorem find?_size_eq_some_iff (links : Table String) {key : String} {found : α} :
    find? links.get? answer links.size key = some found ↔
      Finds links.get? answer key found := by
  constructor
  · exact finds_of_find?
  · intro h
    obtain ⟨steps, there, hreach, hanswer, hbefore⟩ := finds_iff.1 h
    have hle : steps ≤ links.size := steps_le_size hreach hanswer hbefore
    exact find?_eq_some_iff.2 ⟨steps, hle, ⟨there, hreach, hanswer⟩, hbefore⟩

/-- As many links as there are keys are enough to meet every place of a trail. -/
theorem find?_size_eq_none_iff (links : Table String) {key : String} :
    find? links.get? answer links.size key = none ↔
      ∀ steps there, keyAt? links.get? key steps = some there → answer there = none := by
  constructor
  · intro hnone steps there hreach
    cases hanswer : answer there with
    | none => rfl
    | some found =>
      obtain ⟨first, hfirst⟩ := exists_finds_of_keyAt? hreach hanswer
      rw [(find?_size_eq_some_iff links).2 hfirst] at hnone
      cases hnone
  · intro hunanswered
    rw [Option.eq_none_iff_forall_ne_some]
    intro found hfound
    obtain ⟨steps, -, ⟨there, hreach, hanswer⟩, -⟩ := find?_eq_some_iff.1 hfound
    rw [hunanswered steps there hreach] at hanswer
    cases hanswer

/-- Links behind a key with an answer do not count. -/
theorem Finds.of_same_links {other : String → Option String} {key : String} {found : α}
    (h : Finds next answer key found)
    (hsame : ∀ place, answer place = none → next place = other place) :
    Finds other answer key found := by
  induction h with
  | here hhere => exact .here hhere
  | onward hhere hlink _ ih => exact .onward hhere ((hsame _ hhere).symm.trans hlink) ih

theorem find?_size_congr {first second : Table String}
    (hsame : ∀ place, answer place = none → first.get? place = second.get? place)
    (key : String) :
    find? first.get? answer first.size key = find? second.get? answer second.size key := by
  apply Option.ext
  intro found
  rw [find?_size_eq_some_iff, find?_size_eq_some_iff]
  constructor
  · exact fun h => h.of_same_links hsame
  · exact fun h => h.of_same_links fun place hnone => (hsame place hnone).symm

/-- With the links of a table, a trail meets a key exactly if some number of links leads there. -/
theorem meets_size_iff (links : Table String) {goal key : String} :
    meets links.get? goal links.size key = true ↔
      ∃ steps, keyAt? links.get? key steps = some goal := by
  rw [meets, Option.isSome_iff_ne_none, ne_eq, find?_size_eq_none_iff]
  simp

end ServiceWiring.Trail
