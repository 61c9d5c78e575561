import ServiceWiring.Proofs.TomlReaders
import ServiceWiring.Toml.Document

/-!
Numbers, dates and times are told from each other by looking at the text ahead. Whatever is found
there, what is left is the end of the text, and only a decimal integer is refused for its length:
the digits that are counted are those of a numeral at the front of the text.
-/

namespace ServiceWiring.Toml

open Text

variable {cs rest : List Char}

theorem spanDigits_suffix (p : Char → Bool) (cs : List Char) : (spanDigits p cs).2 <:+ cs := by
  fun_induction spanDigits p cs with
  | case1 c d rest _ _ digits after hspan ih =>
    rw [hspan] at ih
    exact ih.trans ((List.suffix_cons '_' _).trans (List.suffix_cons c _))
  | case2 c d rest => exact List.suffix_cons c _
  | case3 => exact List.suffix_rfl
  | case4 c rest _ _ digits after hspan ih =>
    rw [hspan] at ih
    exact ih.trans (List.suffix_cons c rest)
  | case5 => exact List.suffix_rfl
  | case6 => exact List.suffix_rfl

/-- A numeral of this many digits stands at the front of the text, and `rest` is behind it. -/
def BeginsWithNumeral (cs rest : List Char) (digits : Nat) : Prop :=
  ∃ numeral, IsNumeral numeral digits ∧ cs = numeral ++ rest

namespace BeginsWithNumeral

variable {digits : Nat}

theorem nil (cs : List Char) : BeginsWithNumeral cs cs 0 := ⟨[], .nil, rfl⟩

theorem digit {c : Char} (hc : c.isDigit = true) (h : BeginsWithNumeral cs rest digits) :
    BeginsWithNumeral (c :: cs) rest (digits + 1) := by
  obtain ⟨numeral, hnumeral, rfl⟩ := h
  exact ⟨c :: numeral, hnumeral.digit hc, rfl⟩

theorem underscore (h : BeginsWithNumeral cs rest digits) :
    BeginsWithNumeral ('_' :: cs) rest digits := by
  obtain ⟨numeral, hnumeral, rfl⟩ := h
  exact ⟨'_' :: numeral, hnumeral.underscore, rfl⟩

theorem hasNumeral (h : BeginsWithNumeral cs rest digits) : HasNumeral cs digits := by
  obtain ⟨numeral, hnumeral, rfl⟩ := h
  exact ⟨numeral, hnumeral, (List.prefix_append numeral rest).isInfix⟩

theorem suffix (h : BeginsWithNumeral cs rest digits) : rest <:+ cs := by
  obtain ⟨numeral, -, rfl⟩ := h
  exact List.suffix_append numeral rest

end BeginsWithNumeral

theorem beginsWithNumeral_spanDigits (cs : List Char) :
    BeginsWithNumeral cs (spanDigits Char.isDigit cs).2 (spanDigits Char.isDigit cs).1.length := by
  fun_induction spanDigits Char.isDigit cs with
  | case1 c d rest hc _ digits after hspan ih =>
    rw [hspan] at ih
    exact ih.underscore.digit hc
  | case2 c d rest hc => exact (BeginsWithNumeral.nil _).digit hc
  | case3 => exact .nil _
  | case4 c rest _ hc digits after hspan ih =>
    rw [hspan] at ih
    exact ih.digit hc
  | case5 => exact .nil _
  | case6 => exact .nil _

theorem spanSign_suffix (cs : List Char) : (spanSign cs).2 <:+ cs := by
  unfold spanSign
  split
  · exact List.suffix_cons '-' _
  · exact List.suffix_cons '+' _
  · exact List.suffix_rfl

theorem beginsWithNumeral_of_wholePart? {whole : List Char}
    (h : wholePart? cs = some (whole, rest)) : BeginsWithNumeral cs rest whole.length := by
  unfold wholePart? at h
  split at h
  · cases h
    exact (BeginsWithNumeral.nil rest).digit rfl
  · split at h
    · cases h
    · have hspan := beginsWithNumeral_spanDigits cs
      rw [Option.some.inj h] at hspan
      exact hspan

theorem fraction?_suffix {fraction : List Char} (h : fraction? cs = some (fraction, rest)) :
    rest <:+ cs := by
  unfold fraction? at h
  split at h
  · next more =>
    split at h
    · cases h
    · have hspan := spanDigits_suffix Char.isDigit more
      rw [Option.some.inj h] at hspan
      exact hspan.trans (List.suffix_cons '.' more)
  · cases h

theorem exponent?_suffix {exponent : Int} (h : exponent? cs = some (exponent, rest)) :
    rest <:+ cs := by
  unfold exponent? at h
  split at h
  · next mark more =>
    split at h
    · dsimp only at h
      split at h
      · cases h
      · next digits after hspan =>
        have hsuffix := spanDigits_suffix Char.isDigit (spanSign more).2
        rw [hspan] at hsuffix
        cases h
        exact hsuffix.trans ((spanSign_suffix more).trans (List.suffix_cons mark more))
    · cases h
  · cases h

/-- A fraction and an exponent may be missing: then nothing is read. -/
theorem fraction?_getD_suffix (cs : List Char) :
    ((fraction? cs).getD ([], cs)).2 <:+ cs := by
  cases hfound : fraction? cs with
  | none => exact List.suffix_rfl
  | some found =>
    obtain ⟨fraction, rest⟩ := found
    exact fraction?_suffix hfound

theorem exponent?_getD_suffix (cs : List Char) :
    (((exponent? cs).map fun (value, rest) => (some value, rest)).getD (none, cs)).2 <:+ cs := by
  cases hfound : exponent? cs with
  | none => exact List.suffix_rfl
  | some found =>
    obtain ⟨exponent, rest⟩ := found
    exact exponent?_suffix hfound

/-- An integer that is refused for its length is made of the digits that were read. -/
theorem keepsTo_decimalNumber? {outcome : Except Fault Data}
    (h : decimalNumber? cs = some (outcome, rest)) :
    KeepsTo cs (outcome.map fun value => (value, rest)) := by
  unfold decimalNumber? at h
  rw [Option.map_eq_some_iff] at h
  obtain ⟨⟨whole, afterWhole⟩, hwhole, hrest⟩ := h
  have hbegins := beginsWithNumeral_of_wholePart? hwhole
  have hfraction := fraction?_getD_suffix afterWhole
  have hexponent := exponent?_getD_suffix ((fraction? afterWhole).getD ([], afterWhole)).2
  have hsuffix := (hexponent.trans hfraction).trans hbegins.suffix
  -- A sign stands before the numeral and is none of its digits.
  refine KeepsTo.of_suffix ?_ (spanSign_suffix cs)
  dsimp only at hrest
  split at hrest
  · split at hrest
    · next hlong =>
      cases hrest
      exact .oversized hlong hbegins.hasNumeral
    · cases hrest
      exact .ok hsuffix
  · cases hrest
    exact .ok hsuffix

theorem basedInteger?_suffix {value : Data} (h : basedInteger? cs = some (value, rest)) :
    rest <:+ cs := by
  unfold basedInteger? at h
  split at h
  · next mark more =>
    rw [Option.bind_eq_some_iff] at h
    obtain ⟨⟨base, p⟩, -, hspan⟩ := h
    have hsuffix := spanDigits_suffix p more
    dsimp only at hspan
    split at hspan
    · cases hspan
    · next digits after hfound =>
      rw [hfound] at hsuffix
      cases hspan
      exact hsuffix.trans ((List.suffix_cons mark more).trans (List.suffix_cons '0' _))
  · cases h

theorem specialNumber?_suffix {value : Data} (h : specialNumber? cs = some (value, rest)) :
    rest <:+ cs := by
  unfold specialNumber? at h
  dsimp only at h
  split at h
  · cases h
    exact (List.drop_suffix 3 _).trans (spanSign_suffix cs)
  · split at h
    · cases h
      exact (List.drop_suffix 3 _).trans (spanSign_suffix cs)
    · cases h

theorem fixedNumber?_suffix {count low high number : Nat}
    (h : fixedNumber? count low high cs = some (number, rest)) : rest <:+ cs := by
  unfold fixedNumber? at h
  dsimp only at h
  split at h
  · cases h
    exact List.drop_suffix count cs
  · cases h

theorem afterMark?_suffix {mark : Char} (h : afterMark? mark cs = some rest) : rest <:+ cs := by
  unfold afterMark? at h
  split at h
  · next c more =>
    split at h
    · cases h
      exact List.suffix_cons c rest
    · cases h
  · cases h

theorem suffix_of_number_and_mark {count low high number : Nat} {mark : Char} {marked : List Char}
    (hnumber : fixedNumber? count low high cs = some (number, marked))
    (hmark : afterMark? mark marked = some rest) : rest <:+ cs :=
  (afterMark?_suffix hmark).trans (fixedNumber?_suffix hnumber)

theorem afterTime?_suffix (h : afterTime? cs = some rest) : rest <:+ cs := by
  unfold afterTime? at h
  simp only [Option.bind_eq_bind, Option.bind_eq_some_iff] at h
  obtain ⟨⟨hour, _⟩, hhour, minutes, hcolon, h⟩ := h
  obtain ⟨⟨minute, _⟩, hminute, seconds, hcolon', ⟨second, fraction⟩, hsecond, h⟩ := h
  have hclock : fraction <:+ cs :=
    (fixedNumber?_suffix hsecond).trans ((suffix_of_number_and_mark hminute hcolon').trans
      (suffix_of_number_and_mark hhour hcolon))
  refine List.IsSuffix.trans ?_ hclock
  split at h
  · next d more hdot =>
    dsimp only at hdot
    subst hdot
    cases h
    split
    · exact (List.dropWhile_suffix _).trans
        ((List.suffix_cons d more).trans (List.suffix_cons '.' _))
    · exact List.suffix_rfl
  · cases h
    exact List.suffix_rfl

theorem afterOffset?_suffix (h : afterOffset? cs = some rest) : rest <:+ cs := by
  unfold afterOffset? at h
  split at h
  · next c more =>
    split at h
    · cases h
      exact List.suffix_cons c rest
    · split at h
      · simp only [Option.bind_eq_bind, Option.bind_eq_some_iff] at h
        obtain ⟨⟨hour, _⟩, hhour, minutes, hcolon, ⟨minute, _⟩, hminute, h⟩ := h
        cases h
        exact (fixedNumber?_suffix hminute).trans
          ((suffix_of_number_and_mark hhour hcolon).trans (List.suffix_cons c more))
      · cases h
  · cases h

theorem keepsTo_date? {outcome : Except Fault Data} (h : date? cs = some (outcome, rest)) :
    KeepsTo cs (outcome.map fun value => (value, rest)) := by
  unfold date? at h
  simp only [Option.bind_eq_bind, Option.bind_eq_some_iff] at h
  obtain ⟨⟨year, _⟩, hyear, months, hmark, h⟩ := h
  obtain ⟨⟨month, _⟩, hmonth, days, hmark', ⟨day, clock⟩, hday, h⟩ := h
  have hcalendar : clock <:+ cs :=
    (fixedNumber?_suffix hday).trans ((suffix_of_number_and_mark hmonth hmark').trans
      (suffix_of_number_and_mark hyear hmark))
  obtain ⟨houtcome, hrest⟩ := Prod.mk.inj (Option.some.inj h)
  -- A date may end the text, a time may be behind it, and an offset behind the time.
  have hclock : rest <:+ clock := by
    dsimp only at hrest
    rw [← hrest]
    split
    · next c more =>
      split
      · split
        · next afterClock htime =>
          have hmore := (afterTime?_suffix htime).trans (List.suffix_cons c more)
          cases hoffset : afterOffset? afterClock with
          | none => exact hmore
          | some afterOffset => exact (afterOffset?_suffix hoffset).trans hmore
        · exact List.suffix_rfl
      · exact List.suffix_rfl
    · exact List.suffix_rfl
  rw [← houtcome]
  split
  · exact .other rfl
  · exact .ok (hclock.trans hcalendar)

theorem honest_scalar : Honest Reader.scalar := by
  refine (honest_skip _).bind fun _ => .ite (.pure _) ((honest_skip _).bind fun _ =>
    .ite (.pure _) fun cs => keepsTo_get ?_)
  split
  · next outcome rest hdate => exact keepsTo_set (keepsTo_date? hdate)
  · split
    · next rest htime => exact .ok (afterTime?_suffix htime)
    · split
      · next value rest hbased => exact .ok (basedInteger?_suffix hbased)
      · split
        · next outcome rest hdecimal => exact keepsTo_set (keepsTo_decimalNumber? hdecimal)
        · split
          · next value rest hspecial => exact .ok (specialNumber?_suffix hspecial)
          · exact .other rfl

end ServiceWiring.Toml
