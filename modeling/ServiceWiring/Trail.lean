/-!
Trails: the path that starts at a key and follows links from key to key. A trail may run into a
circle, so it is followed for a bounded number of links. Where the links come from a table, as many
links as the table has entries are enough to meet every key of the trail.
-/

namespace ServiceWiring.Trail

variable {α : Type}

/-- What `answer` gives for the first key of the trail from `key` that has an answer, looking no
further than `bound` links. -/
def find? (next : String → Option String) (answer : String → Option α) :
    (bound : Nat) → (key : String) → Option α
  | 0, key => answer key
  | bound + 1, key =>
    match answer key with
    | some found => some found
    | none =>
      match next key with
      | some following => find? next answer bound following
      | none => none

/-- Whether the trail from `key` meets `goal` within `bound` links. -/
def meets (next : String → Option String) (goal : String) (bound : Nat) (key : String) : Bool :=
  (find? next (fun k => if k = goal then some () else none) bound key).isSome

/-- The key that lies `steps` links along the trail, if the trail is that long. -/
def keyAt? (next : String → Option String) (key : String) : (steps : Nat) → Option String
  | 0 => some key
  | steps + 1 =>
    match next key with
    | some following => keyAt? next following steps
    | none => none

/-- An answer comes from a key within the bound before which no key has one. -/
theorem find?_eq_some_iff {next : String → Option String} {answer : String → Option α}
    {bound : Nat} {key : String} {found : α} :
    find? next answer bound key = some found ↔
      ∃ steps, steps ≤ bound ∧
        (∃ there, keyAt? next key steps = some there ∧ answer there = some found) ∧
        ∀ earlier < steps, ∀ there, keyAt? next key earlier = some there → answer there = none := by
  induction bound generalizing key with
  | zero =>
    constructor
    · intro h
      exact ⟨0, Nat.le_refl 0, ⟨key, rfl, h⟩, by omega⟩
    · rintro ⟨steps, le, ⟨there, here, h⟩, -⟩
      obtain rfl : steps = 0 := by omega
      simp only [keyAt?, Option.some.injEq] at here
      simpa [find?, here] using h
  | succ bound ih =>
    cases atKey : answer key with
    | some value =>
      simp only [find?, atKey, Option.some.injEq]
      constructor
      · rintro rfl
        exact ⟨0, Nat.zero_le _, ⟨key, rfl, atKey⟩, by omega⟩
      · rintro ⟨steps, -, ⟨there, here, h⟩, before⟩
        cases steps with
        | zero =>
          simp only [keyAt?, Option.some.injEq] at here
          rw [← here, atKey] at h
          exact Option.some.inj h
        | succ steps =>
          have := before 0 (by omega) key rfl
          simp [atKey] at this
    | none =>
      cases onward : next key with
      | none =>
        simp only [find?, atKey, onward, reduceCtorEq, false_iff]
        rintro ⟨steps, -, ⟨there, here, h⟩, -⟩
        cases steps with
        | zero =>
          simp only [keyAt?, Option.some.injEq] at here
          simp [← here, atKey] at h
        | succ steps => simp [keyAt?, onward] at here
      | some following =>
        simp only [find?, atKey, onward]
        rw [ih]
        constructor
        · rintro ⟨steps, le, ⟨there, here, h⟩, before⟩
          refine ⟨steps + 1, by omega, ⟨there, by simpa [keyAt?, onward] using here, h⟩, ?_⟩
          intro earlier lt place at_place
          cases earlier with
          | zero =>
            simp only [keyAt?, Option.some.injEq] at at_place
            rw [← at_place, atKey]
          | succ earlier =>
            exact before earlier (by omega) place (by simpa [keyAt?, onward] using at_place)
        · rintro ⟨steps, le, ⟨there, here, h⟩, before⟩
          cases steps with
          | zero =>
            simp only [keyAt?, Option.some.injEq] at here
            simp [← here, atKey] at h
          | succ steps =>
            refine ⟨steps, by omega, ⟨there, by simpa [keyAt?, onward] using here, h⟩, ?_⟩
            intro earlier lt place at_place
            exact before (earlier + 1) (by omega) place (by simpa [keyAt?, onward] using at_place)

end ServiceWiring.Trail
