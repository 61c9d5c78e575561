import Mathlib.Algebra.Order.Field.Power
import Mathlib.Data.List.DropRight
import Mathlib.Data.Rat.Cast.Order
import Mathlib.Tactic.Lift
import Mathlib.Tactic.Positivity
import ServiceWiring.Binary64
import ServiceWiring.Text.Numeral

/-!
Integers as they may be written. A numeral has blanks around it, a sign, decimal digits in groups
and a fraction of zeros, most of which can be left out. Reading a text as an integer succeeds for
numerals and for nothing else, and gives the integer that the digits and the sign stand for. A
floating-point number is an integer if the rational number it denotes is one.
-/

namespace ServiceWiring

namespace Text

variable {cs core written digits fraction : List Char} {n : Nat} {value : Int} {text : String}

/-! ## The grammar of numerals -/

/-- Decimal digits as they are written, with single underscores between some of them. -/
inductive IsGrouped : List Char → List Char → Prop
  | last {c : Char} : c.isDigit = true → IsGrouped [c] [c]
  | digit {c : Char} {written digits : List Char} : c.isDigit = true → IsGrouped written digits →
      IsGrouped (c :: written) (c :: digits)
  | underscore {c : Char} {written digits : List Char} : c.isDigit = true →
      IsGrouped written digits → IsGrouped (c :: '_' :: written) (c :: digits)

inductive IsZeroFraction : List Char → Prop
  | nil : IsZeroFraction []
  | point {zeros : List Char} : (∀ c ∈ zeros, c = '0') → IsZeroFraction ('.' :: zeros)

def IsUnsigned (cs : List Char) (n : Nat) : Prop :=
  ∃ written digits fraction, cs = written ++ fraction ∧ IsGrouped written digits ∧
    IsZeroFraction fraction ∧ n = Nat.ofDigitChars 10 digits 0

inductive IsSigned : List Char → Int → Prop
  | bare {cs : List Char} {n : Nat} : IsUnsigned cs n → IsSigned cs n
  | plus {cs : List Char} {n : Nat} : IsUnsigned cs n → IsSigned ('+' :: cs) n
  | minus {cs : List Char} {n : Nat} : IsUnsigned cs n → IsSigned ('-' :: cs) (-n)

/-- The text is a number with nothing but blanks around it. -/
def IsNumeral (text : String) (value : Int) : Prop :=
  ∃ before written after, text.toList = before ++ written ++ after ∧
    (∀ c ∈ before, isSpace c = true) ∧ (∀ c ∈ after, isSpace c = true) ∧ IsSigned written value

/-! ## Blanks -/

/-- What is left without the blanks at both ends, if it has no blanks within. -/
theorem trimSpaces_eq_iff (hcore : ∀ c ∈ core, isSpace c = false) :
    trimSpaces cs = core ↔ ∃ before after, cs = before ++ core ++ after ∧
      (∀ c ∈ before, isSpace c = true) ∧ ∀ c ∈ after, isSpace c = true := by
  have htrim : trimSpaces cs = (cs.dropWhile isSpace).rdropWhile isSpace := rfl
  constructor
  · rintro rfl
    refine ⟨cs.takeWhile isSpace, (cs.dropWhile isSpace).rtakeWhile isSpace, ?_, ?_, ?_⟩
    · rw [htrim, List.append_assoc, List.rdropWhile_append_rtakeWhile,
        List.takeWhile_append_dropWhile]
    · exact fun c hc => List.mem_takeWhile_imp hc
    · exact fun c hc => List.mem_rtakeWhile_imp hc
  · rintro ⟨before, after, rfl, hbefore, hafter⟩
    rw [htrim, List.append_assoc, List.dropWhile_append_of_pos hbefore]
    cases core with
    | nil => rw [List.nil_append, List.dropWhile_eq_nil_iff.2 hafter, List.rdropWhile_nil]
    | cons first rest =>
      have hfirst : isSpace first = false := hcore first List.mem_cons_self
      have hreverse : ((first :: rest).reverse).dropWhile isSpace = (first :: rest).reverse := by
        rw [List.dropWhile_eq_self_iff]
        intro hlength hblank
        rw [hcore _ (List.mem_reverse.1 (List.getElem_mem hlength))] at hblank
        cases hblank
      rw [List.cons_append, List.dropWhile_cons_of_neg (by simp [hfirst]), ← List.cons_append,
        List.rdropWhile, List.reverse_append,
        List.dropWhile_append_of_pos fun c hc => hafter c (List.mem_reverse.1 hc), hreverse,
        List.reverse_reverse]

/-! ## Digits and fractions -/

theorem IsGrouped.exists_cons (hgrouped : IsGrouped written digits) :
    ∃ c rest, written = c :: rest ∧ c.isDigit = true := by
  cases hgrouped with
  | last hc => exact ⟨_, _, rfl, hc⟩
  | digit hc _ => exact ⟨_, _, rfl, hc⟩
  | underscore hc _ => exact ⟨_, _, rfl, hc⟩

theorem IsGrouped.eq_underscore_or_isDigit (hgrouped : IsGrouped written digits) :
    ∀ c ∈ written, c = '_' ∨ c.isDigit = true := by
  induction hgrouped with
  | last hc => simp [hc]
  | digit hc _ ih => simpa [hc] using ih
  | underscore hc _ ih => simpa [hc] using ih

/-- Groups of digits are read as they are written, less their underscores. -/
theorem digitGroup?_eq_some_iff : digitGroup? cs = some digits ↔ IsGrouped cs digits := by
  constructor
  · intro hread
    fun_induction digitGroup? cs generalizing digits with
    | case1 => cases hread
    | case2 c hc =>
      cases hread
      exact .last hc
    | case3 => cases hread
    | case4 c rest hc ih =>
      obtain ⟨others, hothers, rfl⟩ := Option.map_eq_some_iff.1 hread
      exact .underscore hc (ih hothers)
    | case5 => cases hread
    | case6 c rest _ _ hc ih =>
      obtain ⟨others, hothers, rfl⟩ := Option.map_eq_some_iff.1 hread
      exact .digit hc (ih hothers)
    | case7 => cases hread
  · intro hgrouped
    induction hgrouped with
    | last hc => simp [digitGroup?, hc]
    | digit hc hrest ih =>
      -- the next character is a digit, so it is no underscore and the group does not end here
      obtain ⟨d, rest, rfl, hd⟩ := hrest.exists_cons
      have hgap : d ≠ '_' := by
        rintro rfl
        exact absurd hd (by decide)
      simp [digitGroup?, hc, ih, hgap]
    | underscore hc _ ih => simp [digitGroup?, hc, ih]

/-- What follows the whole number is a fraction of zeros if there is nothing but zeros after the
first point. -/
theorem isZeroFraction_dropWhile_iff :
    IsZeroFraction (cs.dropWhile (· != '.')) ↔
      ((cs.dropWhile (· != '.')).drop 1).all (· == '0') = true := by
  have hhead := List.head?_dropWhile_not (· != '.') cs
  cases hrest : cs.dropWhile (· != '.') with
  | nil => simp [IsZeroFraction.nil]
  | cons point zeros =>
    rw [hrest] at hhead
    obtain rfl : point = '.' := by simpa using hhead
    simp only [List.drop_one, List.tail_cons, List.all_eq_true, beq_iff_eq]
    exact ⟨fun | .point hzeros => hzeros, .point⟩

/-- A group of digits ends where the fraction begins. -/
theorem IsGrouped.span_point (hgrouped : IsGrouped written digits)
    (hfraction : IsZeroFraction fraction) :
    (written ++ fraction).takeWhile (· != '.') = written ∧
      (written ++ fraction).dropWhile (· != '.') = fraction := by
  have hwritten : ∀ c ∈ written, (c != '.') = true := by
    intro c hc
    obtain rfl | hdigit := hgrouped.eq_underscore_or_isDigit c hc
    · rfl
    · rw [bne_iff_ne]
      rintro rfl
      exact absurd hdigit (by decide)
  rw [List.takeWhile_append_of_pos hwritten, List.dropWhile_append_of_pos hwritten]
  cases hfraction with
  | nil => simp
  | point _ => simp

/-- The reader of unsigned numbers agrees with their grammar. -/
theorem naturalValue?_eq_some_iff : naturalValue? cs = some n ↔ IsUnsigned cs n := by
  have hspan : naturalValue? cs =
      if ((cs.dropWhile (· != '.')).drop 1).all (· == '0') then
        (digitGroup? (cs.takeWhile (· != '.'))).map (digitsValue 0) else none := by
    rw [naturalValue?, List.span_eq_takeWhile_dropWhile]
  rw [hspan]
  constructor
  · intro hread
    split at hread
    · next hzeros =>
      obtain ⟨digits, hdigits, rfl⟩ := Option.map_eq_some_iff.1 hread
      exact ⟨_, digits, _, List.takeWhile_append_dropWhile.symm, digitGroup?_eq_some_iff.1 hdigits,
        isZeroFraction_dropWhile_iff.2 hzeros, rfl⟩
    · cases hread
  · rintro ⟨written, digits, fraction, rfl, hgrouped, hfraction, rfl⟩
    obtain ⟨hwhole, hrest⟩ := hgrouped.span_point hfraction
    rw [if_pos (isZeroFraction_dropWhile_iff.1 (hrest.symm ▸ hfraction)), hwhole,
      digitGroup?_eq_some_iff.2 hgrouped]
    rfl

/-! ## Signs -/

/-- No number without a sign is empty or begins with a sign. -/
theorem IsUnsigned.exists_cons (hcs : IsUnsigned cs n) :
    ∃ c rest, cs = c :: rest ∧ c.isDigit = true := by
  obtain ⟨written, digits, fraction, rfl, hgrouped, -, -⟩ := hcs
  obtain ⟨c, rest, rfl, hc⟩ := hgrouped.exists_cons
  exact ⟨c, rest ++ fraction, rfl, hc⟩

theorem isSpace_of_isDigit {c : Char} (hc : c.isDigit = true) : isSpace c = false := by
  have hrange : 48 ≤ c.toNat ∧ c.toNat ≤ 57 := by
    simpa [Char.isDigit, UInt32.le_iff_toNat_le] using hc
  simp only [isSpace, Bool.or_eq_false_iff, Bool.and_eq_false_imp, decide_eq_true_eq,
    decide_eq_false_iff_not]
  omega

theorem IsUnsigned.isSpace_eq_false (hcs : IsUnsigned cs n) : ∀ c ∈ cs, isSpace c = false := by
  obtain ⟨written, digits, fraction, rfl, hgrouped, hfraction, -⟩ := hcs
  intro c hc
  obtain hc | hc := List.mem_append.1 hc
  · obtain rfl | hdigit := hgrouped.eq_underscore_or_isDigit c hc
    · decide
    · exact isSpace_of_isDigit hdigit
  · cases hfraction with
    | nil => cases hc
    | point hzeros =>
      obtain rfl | hc := List.mem_cons.1 hc
      · decide
      · rw [hzeros c hc]
        decide

theorem IsSigned.isSpace_eq_false (hcs : IsSigned cs value) : ∀ c ∈ cs, isSpace c = false := by
  cases hcs with
  | bare hcs => exact hcs.isSpace_eq_false
  | plus hcs => exact List.forall_mem_cons.2 ⟨by decide, hcs.isSpace_eq_false⟩
  | minus hcs => exact List.forall_mem_cons.2 ⟨by decide, hcs.isSpace_eq_false⟩

/-- A text is read as an integer just if it is a numeral, and as the integer that it denotes. -/
theorem integerValue?_eq_some_iff : integerValue? text = some value ↔ IsNumeral text value := by
  rw [integerValue?]
  constructor
  · intro hread
    have hsigned : IsSigned (trimSpaces text.toList) value := by
      split at hread
      · next rest htrim =>
        obtain ⟨_, hvalue, rfl⟩ := Option.map_eq_some_iff.1 hread
        obtain ⟨n, hn, hcast⟩ := Option.bind_eq_some_iff.1 hvalue
        cases hcast
        exact htrim ▸ .minus (naturalValue?_eq_some_iff.1 hn)
      · next rest htrim =>
        obtain ⟨n, hn, rfl⟩ := Option.map_eq_some_iff.1 hread
        exact htrim ▸ .plus (naturalValue?_eq_some_iff.1 hn)
      · obtain ⟨n, hn, rfl⟩ := Option.map_eq_some_iff.1 hread
        exact .bare (naturalValue?_eq_some_iff.1 hn)
    obtain ⟨before, after, htext, hbefore, hafter⟩ :=
      (trimSpaces_eq_iff hsigned.isSpace_eq_false).1 rfl
    exact ⟨before, _, after, htext, hbefore, hafter, hsigned⟩
  · rintro ⟨before, written, after, htext, hbefore, hafter, hsigned⟩
    rw [(trimSpaces_eq_iff hsigned.isSpace_eq_false).2 ⟨before, after, htext, hbefore, hafter⟩]
    cases hsigned with
    | bare hcs =>
      -- the first character is a digit, which no sign is
      obtain ⟨c, rest, rfl, hc⟩ := hcs.exists_cons
      split
      · next hcons =>
        cases hcons
        exact absurd hc (by decide)
      · next hcons =>
        cases hcons
        exact absurd hc (by decide)
      · rw [naturalValue?_eq_some_iff.2 hcs]
        rfl
    | plus hcs => simp [naturalValue?_eq_some_iff.2 hcs]
    | minus hcs => simp [naturalValue?_eq_some_iff.2 hcs]

end Text

namespace Binary64

variable {negative : Bool} {mantissa : Nat} {exponent : Int} {value : Int} {number : Binary64}

/-- The rational number that a floating-point number is. -/
inductive Denotes : Binary64 → ℚ → Prop
  | positive {mantissa : Nat} {exponent : Int} :
      Denotes (.finite false mantissa exponent) (mantissa * 2 ^ exponent)
  | negative {mantissa : Nat} {exponent : Int} :
      Denotes (.finite true mantissa exponent) (-(mantissa * 2 ^ exponent))

theorem cast_twoTo (hexponent : 0 ≤ exponent) : (twoTo exponent : ℚ) = 2 ^ exponent := by
  lift exponent to ℕ using hexponent
  simp [twoTo]

theorem twoTo_pos : 0 < twoTo exponent := Nat.two_pow_pos _

/-- The size of a number is read off its mantissa if it is whole. -/
theorem magnitude_eq_some_iff {magnitude : ℕ} :
    (if 0 ≤ exponent then some (mantissa * twoTo exponent)
      else if mantissa % twoTo (-exponent) = 0 then some (mantissa / twoTo (-exponent)) else none) =
        some magnitude ↔ (magnitude : ℚ) = mantissa * 2 ^ exponent := by
  by_cases hexponent : 0 ≤ exponent
  · rw [if_pos hexponent, Option.some_inj, ← cast_twoTo hexponent, ← Nat.cast_mul, Nat.cast_inj,
      eq_comm]
  · have hpower : (2 : ℚ) ^ exponent = (twoTo (-exponent) : ℚ)⁻¹ := by
      rw [cast_twoTo (by omega), zpow_neg, inv_inv]
    rw [if_neg hexponent, hpower, ← div_eq_mul_inv, eq_div_iff (Nat.cast_pos.2 twoTo_pos).ne',
      ← Nat.cast_mul, Nat.cast_inj]
    split_ifs with hwhole
    · rw [Option.some_inj, Nat.div_eq_iff_eq_mul_left twoTo_pos (Nat.dvd_of_mod_eq_zero hwhole),
        eq_comm]
    · refine iff_of_false nofun ?_
      rintro rfl
      exact hwhole (Nat.mul_mod_left _ _)

/-- A floating-point number is read as an integer just if it is one. -/
theorem toInt?_eq_some_iff : toInt? number = some value ↔ number.Denotes value := by
  constructor
  · intro hread
    cases number with
    | finite negative mantissa exponent =>
      obtain ⟨_, hsize, rfl⟩ := Option.map_eq_some_iff.1 hread
      obtain ⟨magnitude, hmagnitude, hcast⟩ := Option.bind_eq_some_iff.1 hsize
      cases hcast
      rw [magnitude_eq_some_iff] at hmagnitude
      cases negative
      · simpa [hmagnitude] using Denotes.positive
      · simpa [hmagnitude] using Denotes.negative
    | infinite => cases hread
    | notANumber => cases hread
  · intro hdenotes
    generalize hrational : (value : ℚ) = rational at hdenotes
    cases hdenotes with
    | @positive mantissa exponent =>
      have hsign : (0 : ℚ) ≤ value := by
        rw [hrational]
        positivity
      lift value to ℕ using by exact_mod_cast hsign
      rw [Int.cast_natCast] at hrational
      simp [toInt?, magnitude_eq_some_iff.2 hrational]
    | @negative mantissa exponent =>
      obtain ⟨size, rfl⟩ : ∃ size, value = -size := ⟨-value, (neg_neg value).symm⟩
      rw [Int.cast_neg, neg_inj] at hrational
      have hsign : (0 : ℚ) ≤ size := by
        rw [hrational]
        positivity
      lift size to ℕ using by exact_mod_cast hsign
      rw [Int.cast_natCast] at hrational
      simp [toInt?, magnitude_eq_some_iff.2 hrational]
end Binary64

end ServiceWiring
