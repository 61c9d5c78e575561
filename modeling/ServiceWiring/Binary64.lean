/-!
Floating-point numbers of 64 bits, held exactly: a mantissa times a power of two. Decimal numbers
are rounded to the nearest of them, to the even mantissa if two are equally near.
-/

namespace ServiceWiring

inductive Binary64 where
  /-- `mantissa * 2 ^ exponent`, negated if `negative`. -/
  | finite (negative : Bool) (mantissa : Nat) (exponent : Int)
  | infinite (negative : Bool)
  | notANumber
deriving DecidableEq, Repr

namespace Binary64

/-- A power of two; negative exponents count as zero. -/
def twoTo (exponent : Int) : Nat := Nat.pow 2 exponent.toNat

/-- A power of ten; negative exponents count as zero. -/
def tenTo (exponent : Int) : Nat := Nat.pow 10 exponent.toNat

/-- The quotient of two numbers, rounded to nearest; ties go to the even quotient. -/
def roundQuotient (num den : Nat) : Nat :=
  let quotient := num / den
  let twice := 2 * (num % den)
  if twice < den then quotient
  else if den < twice then quotient + 1
  else quotient + quotient % 2

/-- The value of the fraction `num / den`, rounded to 53 bits or to the last bit that the smallest
numbers have. -/
def ofFraction (negative : Bool) (num den : Nat) : Binary64 :=
  let guess : Int := (num.log2 : Int) - den.log2 - 53
  let scaled (exponent : Int) : Nat × Nat :=
    if 0 ≤ exponent then (num, den * twoTo exponent) else (num * twoTo (-exponent), den)
  let wide := scaled guess
  let fitting := if twoTo 53 * wide.2 ≤ wide.1 then guess + 1 else guess
  let exponent := max fitting (-1074)
  let (top, bottom) := scaled exponent
  let mantissa := roundQuotient top bottom
  if 0 ≤ exponent && decide (twoTo 1024 ≤ mantissa * twoTo exponent) then .infinite negative
  else .finite negative mantissa exponent

/-- The number nearest to `digits * 10 ^ exponent`. Exponents beyond the range of the format are
decided by size alone. -/
def ofDecimal (negative : Bool) (digits : Nat) (exponent : Int) : Binary64 :=
  let size : Int := (Nat.toDigits 10 digits).length + exponent
  if digits = 0 || decide (size < -400) then .finite negative 0 0
  else if decide (400 < size) then .infinite negative
  else if 0 ≤ exponent then ofFraction negative (digits * tenTo exponent) 1
  else ofFraction negative digits (tenTo (-exponent))

def toInt? : Binary64 → Option Int
  | .finite negative mantissa exponent =>
    let magnitude? :=
      if 0 ≤ exponent then some (mantissa * twoTo exponent)
      else
        let unit := twoTo (-exponent)
        if mantissa % unit = 0 then some (mantissa / unit) else none
    magnitude?.map fun magnitude => if negative then -(magnitude : Int) else magnitude
  | _ => none

end Binary64

end ServiceWiring
