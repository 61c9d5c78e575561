import ServiceWiring.Text.Lowercase

/-!
Laws of lower-casing. A lower-case text has no character left that lower-casing changes, so
lower-casing twice is lower-casing once. What follows a text decides nothing about its capital
sigmas if it shows no letter with case first.
-/

namespace ServiceWiring.Text

def CaseRange.codes (range : CaseRange) : List Nat :=
  (List.range ((range.last - range.first) / range.step + 1)).map (range.first + range.step * ·)

def CaseRange.lowered (range : CaseRange) (code : Nat) : Nat := (code + range.shift).toNat

theorem exists_range_of_caseShift? {code : Nat} {ranges : List CaseRange} {shift : Int}
    (h : caseShift? code ranges = some shift) :
    ∃ range ∈ ranges, code ∈ range.codes ∧ range.shift = shift := by
  induction ranges with
  | nil => simp [caseShift?] at h
  | cons range rest ih =>
    simp only [caseShift?] at h
    split at h
    · cases h
    · next hfirst =>
      split at h
      · next hlast =>
        split at h
        · next hstep =>
          have hindex : (code - range.first) / range.step ≤
              (range.last - range.first) / range.step :=
            Nat.div_le_div_right (by omega)
          have hcode := Nat.div_add_mod (code - range.first) range.step
          refine ⟨range, by simp, ?_, Option.some.inj h⟩
          exact List.mem_map.2 ⟨_, List.mem_range.2 (Nat.lt_succ_of_le hindex), by omega⟩
        · cases h
      · obtain ⟨found, hmem, hrest⟩ := ih h
        exact ⟨found, List.mem_cons_of_mem range hmem, hrest⟩

/-- The code points that lower-casing changes: dotted capital I, capital sigma and the ranges. -/
def changingCodes : List Nat := [0x130, 0x3A3] ++ caseRanges.flatMap CaseRange.codes

/-- The code points that lower-casing writes in their place. -/
def loweredCodes : List Nat :=
  [0x69, 0x307, 0x3C2, 0x3C3] ++
    caseRanges.flatMap fun range => range.codes.map range.lowered

/-- A set of code points as a number, with one bit for each. -/
def codeSet (codes : List Nat) : Nat := codes.foldr (fun code set => set ||| 1 <<< code) 0

theorem testBit_codeSet (codes : List Nat) (code : Nat) :
    (codeSet codes).testBit code = true ↔ code ∈ codes := by
  induction codes with
  | nil => simp [codeSet]
  | cons first rest ih =>
    have hstep : codeSet (first :: rest) = codeSet rest ||| 1 <<< first := rfl
    rw [hstep, Nat.testBit_or, Nat.one_shiftLeft, Nat.testBit_two_pow, Bool.or_eq_true, ih,
      decide_eq_true_iff, List.mem_cons, or_comm, eq_comm]

/-- No lower-case form changes again. The sets are compared as numbers; comparing the lists code
point by code point would take millions of steps. -/
theorem not_mem_changingCodes {code : Nat} (hlowered : code ∈ loweredCodes) :
    code ∉ changingCodes := by
  have hdisjoint : codeSet changingCodes &&& codeSet loweredCodes = 0 := by decide +kernel
  intro hchanging
  have hbit := congrArg (Nat.testBit · code) hdisjoint
  simp [(testBit_codeSet changingCodes code).2 hchanging,
    (testBit_codeSet loweredCodes code).2 hlowered] at hbit

theorem isValidChar_of_mem_loweredCodes : ∀ code ∈ loweredCodes, code.isValidChar := by
  decide +kernel

/-- Lower-casing leaves the character as it is, wherever it stands. -/
def IsSettled (c : Char) : Prop := c ≠ 'Σ' ∧ lowerChar c = [c]

instance (c : Char) : Decidable (IsSettled c) := inferInstanceAs (Decidable (_ ∧ _))

theorem isSettled_of_not_mem {c : Char} (h : c.toNat ∉ changingCodes) : IsSettled c := by
  have hsigma : c ≠ 'Σ' := by
    rintro rfl
    exact h (by simp [changingCodes])
  have hdotted : c ≠ '\u0130' := by
    rintro rfl
    exact h (by simp [changingCodes])
  have hshift : caseShift? c.toNat caseRanges = none := by
    rw [Option.eq_none_iff_forall_ne_some]
    intro shift hfound
    obtain ⟨range, hmem, hcode, -⟩ := exists_range_of_caseShift? hfound
    have hchanging : c.toNat ∈ caseRanges.flatMap CaseRange.codes :=
      List.mem_flatMap.2 ⟨range, hmem, hcode⟩
    exact h (List.mem_append_right _ hchanging)
  exact ⟨hsigma, by simp [lowerChar, hdotted, hshift]⟩

theorem isSettled_ofNat {code : Nat} (h : code ∈ loweredCodes) : IsSettled (Char.ofNat code) := by
  apply isSettled_of_not_mem
  have hvalid := isValidChar_of_mem_loweredCodes code h
  have hcode : (Char.ofNat code).toNat = code := by
    rw [Char.ofNat, dif_pos hvalid]
    rfl
  rw [hcode]
  exact not_mem_changingCodes h

theorem isSettled_of_mem_lowerChar {c d : Char} (hc : c ≠ 'Σ') (hd : d ∈ lowerChar c) :
    IsSettled d := by
  by_cases hdotted : c = '\u0130'
  · simp only [lowerChar, hdotted, if_true, List.mem_cons, List.not_mem_nil, or_false] at hd
    rcases hd with rfl | rfl
    · exact isSettled_ofNat (by simp [loweredCodes] : 0x69 ∈ loweredCodes)
    · exact isSettled_ofNat (by simp [loweredCodes] : 0x307 ∈ loweredCodes)
  · cases hshift : caseShift? c.toNat caseRanges with
    | none =>
      have hsame : lowerChar c = [c] := by simp [lowerChar, hdotted, hshift]
      rw [hsame, List.mem_singleton] at hd
      exact hd ▸ ⟨hc, hsame⟩
    | some shift =>
      obtain ⟨range, hmem, hcode, rfl⟩ := exists_range_of_caseShift? hshift
      simp only [lowerChar, hdotted, if_false, hshift, List.mem_singleton] at hd
      have hlowered : range.lowered c.toNat ∈ loweredCodes :=
        List.mem_append_right _ (List.mem_flatMap.2 ⟨range, hmem, List.mem_map_of_mem hcode⟩)
      exact hd ▸ isSettled_ofNat hlowered

theorem isSettled_lowerSigma (before after : List Char) : IsSettled (lowerSigma before after) := by
  have hfinal : IsSettled 'ς' := isSettled_ofNat (by simp [loweredCodes] : 0x3C2 ∈ loweredCodes)
  have hinner : IsSettled 'σ' := isSettled_ofNat (by simp [loweredCodes] : 0x3C3 ∈ loweredCodes)
  unfold lowerSigma
  split
  · exact hfinal
  · exact hinner

/-- All characters of a text in lower case are settled. -/
theorem isSettled_of_mem_lowerAfter {before cs : List Char} {d : Char}
    (hd : d ∈ lowerAfter before cs) : IsSettled d := by
  induction cs generalizing before with
  | nil => simp [lowerAfter] at hd
  | cons c rest ih =>
    simp only [lowerAfter, List.mem_append] at hd
    rcases hd with hhere | hrest
    · split at hhere
      · rw [List.mem_singleton] at hhere
        exact hhere ▸ isSettled_lowerSigma before rest
      · next hc => exact isSettled_of_mem_lowerChar hc hhere
    · exact ih hrest

theorem lowerAfter_eq_self {before cs : List Char} (h : ∀ c ∈ cs, IsSettled c) :
    lowerAfter before cs = cs := by
  induction cs generalizing before with
  | nil => rfl
  | cons c rest ih =>
    obtain ⟨hsigma, hsame⟩ := h c List.mem_cons_self
    rw [lowerAfter, ih fun d hd => h d (List.mem_cons_of_mem c hd)]
    simp [hsigma, hsame]

/-- A text in lower case is its own lower-case form. -/
@[simp]
theorem lowercase_lowercase (s : String) : lowercase (lowercase s) = lowercase s := by
  have hsettled : ∀ c ∈ lowerAfter [] s.toList, IsSettled c :=
    fun c hc => isSettled_of_mem_lowerAfter hc
  rw [lowercase, lowercase, String.toList_ofList, lowerAfter_eq_self hsettled]

/-- A tail that shows no letter with case does not say whether a word goes on. -/
theorem meetsCased_append {tail : List Char} (htail : meetsCased tail = false) (cs : List Char) :
    meetsCased (cs ++ tail) = meetsCased cs := by
  unfold meetsCased at htail ⊢
  rw [List.dropWhile_append]
  cases hrest : cs.dropWhile caseIgnorableRanges.contains with
  | nil => simpa using htail
  | cons c rest => simp

theorem lowerAfter_append {tail : List Char} (htail : meetsCased tail = false)
    (before cs : List Char) :
    lowerAfter before (cs ++ tail) =
      lowerAfter before cs ++ lowerAfter (cs.reverse ++ before) tail := by
  induction cs generalizing before with
  | nil => simp [lowerAfter]
  | cons c rest ih =>
    have hsigma : lowerSigma before (rest ++ tail) = lowerSigma before rest := by
      rw [lowerSigma, meetsCased_append htail, lowerSigma]
    rw [List.cons_append, lowerAfter, ih, lowerAfter, hsigma]
    simp

/-- A tail in lower case that shows no letter with case first stays as it is, and so does the
lower-case form of the text before it. -/
theorem lowercase_append (s : String) {tail : String} (htail : meetsCased tail.toList = false)
    (hsettled : ∀ c ∈ tail.toList, IsSettled c) :
    lowercase (s ++ tail) = lowercase s ++ tail := by
  rw [← String.toList_inj]
  simp [lowercase, lowerAfter_append htail, lowerAfter_eq_self hsettled]

end ServiceWiring.Text
