/-!
Integers written loosely in text: blanks around them, a sign, leading zeros, single underscores
between digits and a fraction of zeros are allowed.
-/

namespace ServiceWiring.Text

def isSpace (c : Char) : Bool :=
  let n := c.toNat
  (9 ≤ n && n ≤ 13) || n = 0x20 || n = 0x85 || n = 0xA0 || n = 0x1680 ||
    (0x2000 ≤ n && n ≤ 0x200A) || n = 0x2028 || n = 0x2029 || n = 0x202F || n = 0x205F ||
    n = 0x3000

def trimSpaces (cs : List Char) : List Char :=
  ((cs.dropWhile isSpace).reverse.dropWhile isSpace).reverse

def digitsValue (start : Nat) (cs : List Char) : Nat :=
  cs.foldl (fun value c => 10 * value + (c.toNat - '0'.toNat)) start

/-- The digits of a group in which single underscores may stand between digits. -/
def digitGroup? : List Char → Option (List Char)
  | [] => none
  | [c] => if c.isDigit then some [c] else none
  | c :: '_' :: rest => if c.isDigit then (digitGroup? rest).map (c :: ·) else none
  | c :: rest => if c.isDigit then (digitGroup? rest).map (c :: ·) else none

/-- The value of an unsigned number whose fraction, if it has one, is zero. -/
def naturalValue? (cs : List Char) : Option Nat :=
  let (whole, fraction) := cs.span (· != '.')
  if (fraction.drop 1).all (· == '0') then (digitGroup? whole).map (digitsValue 0) else none

def integerValue? (s : String) : Option Int :=
  match trimSpaces s.toList with
  | '-' :: rest => (naturalValue? rest).map fun n => -(n : Int)
  | '+' :: rest => (naturalValue? rest).map Int.ofNat
  | rest => (naturalValue? rest).map Int.ofNat

end ServiceWiring.Text
