import ServiceWiring.Data
import ServiceWiring.Text.Numeral
import ServiceWiring.Text.Scanner
import ServiceWiring.Toml.Fault

/-!
The parts of TOML that hold no other parts: blanks, comments, strings, keys, numbers, dates and
times.
-/

namespace ServiceWiring.Toml

open Text

abbrev Reader (α : Type) := Scanner Fault α

def isBlank (c : Char) : Bool := c == ' ' || c == '\t'

/-- Control characters, which neither strings nor comments may hold, the tabulator apart. -/
def isControl (c : Char) : Bool := (c.toNat < 0x20 && c != '\t') || c.toNat == 0x7F

def isBareKeyChar (c : Char) : Bool := c.isAlphanum || c == '-' || c == '_'

/-- The keys that lead from the root of a document to a place in it. -/
abbrev Key := List String

namespace Reader

def blanks : Reader Unit := Scanner.skipWhile isBlank

/-- A comment, if one comes next; it ends before the line feed. -/
def comment : Reader Unit := do
  if ← Scanner.skip "#" then
    let body ← Scanner.takeWhile (· != '\n')
    if body.any isControl then throw .illegalCharacter

def filler : Nat → Reader Unit
  | 0 => return ()
  | fuel + 1 => do
    Scanner.skipWhile fun c => isBlank c || c == '\n'
    if ← Scanner.sees "#" then
      comment
      filler fuel

/-! Strings -/

def escapedCode (count : Nat) : Reader Char := do
  let digits := (← get).take count
  unless digits.length = count && digits.all (·.isHexDigit) do throw .invalidEscape
  modify (·.drop count)
  let code := digits.foldl (fun code c => 16 * code + hexValue c) 0
  if h : code.isValidChar then return Char.ofNatAux code h else throw .invalidEscape
where
  hexValue (c : Char) : Nat :=
    if c.isDigit then c.toNat - '0'.toNat else c.toLower.toNat - 'a'.toNat + 10

def escapedCharacter : Reader Char := do
  match ← Scanner.next? with
  | some 'b' => return '\x08'
  | some 't' => return '\t'
  | some 'n' => return '\n'
  | some 'f' => return '\x0c'
  | some 'r' => return '\r'
  | some '"' => return '"'
  | some '\\' => return '\\'
  | some 'u' => escapedCode 4
  | some 'U' => escapedCode 8
  | _ => throw .invalidEscape

/-- The rest of a string between double quotes. -/
def basicRest : Nat → List Char → Reader String
  | 0, _ => throw .unterminated
  | fuel + 1, done => do
    match ← Scanner.next? with
    | none => throw .unterminated
    | some '"' => return String.ofList done.reverse
    | some '\\' => do basicRest fuel ((← escapedCharacter) :: done)
    | some c => if isControl c then throw .illegalCharacter else basicRest fuel (c :: done)

/-- The rest of a string between apostrophes, which knows no escapes. -/
def literalRest : Reader String := do
  let body ← Scanner.takeUntil "'" .unterminated
  if body.any isControl then throw .illegalCharacter
  return String.ofList body

/-- Up to two quotes that stand before the three at the end of a long string belong to it; they
are read after the first three. -/
def extraQuotes (quote : String) : Reader String := do
  if ← Scanner.skip quote then
    if ← Scanner.skip quote then return quote ++ quote else return quote
  else return ""

/-- The rest of an escape that joins lines: blanks up to the end of the line, and then all blanks
and line feeds. -/
def lineJoint : Reader Unit := do
  blanks
  unless ← Scanner.atEnd do
    Scanner.expect "\n" .invalidEscape
    Scanner.skipWhile fun c => isBlank c || c == '\n'

def longBasicRest : Nat → List Char → Reader String
  | 0, _ => throw .unterminated
  | fuel + 1, done => do
    if ← Scanner.skip "\"\"\"" then
      return String.ofList done.reverse ++ (← extraQuotes "\"")
    else
      match ← Scanner.next? with
      | none => throw .unterminated
      | some '\\' =>
        if (← Scanner.sees " ") || (← Scanner.sees "\t") || (← Scanner.sees "\n") then
          lineJoint
          longBasicRest fuel done
        else do longBasicRest fuel ((← escapedCharacter) :: done)
      | some c =>
        if isControl c && c != '\n' then throw .illegalCharacter
        else longBasicRest fuel (c :: done)

def longLiteralRest : Reader String := do
  let body ← Scanner.takeUntil "'''" .unterminated
  if body.any fun c => isControl c && c != '\n' then throw .illegalCharacter
  return String.ofList body ++ (← extraQuotes "'")

def string? (fuel : Nat) : Reader (Option String) := do
  if ← Scanner.skip "\"\"\"" then
    let _ ← Scanner.skip "\n"
    return some (← longBasicRest fuel [])
  else if ← Scanner.skip "\"" then
    return some (← basicRest fuel [])
  else if ← Scanner.skip "'''" then
    let _ ← Scanner.skip "\n"
    return some (← longLiteralRest)
  else if ← Scanner.skip "'" then
    return some (← literalRest)
  else return none

/-! Keys -/

/-- One part of a key: bare, or quoted on one line. -/
def keyPart (fuel : Nat) : Reader String := do
  if ← Scanner.skip "\"" then basicRest fuel []
  else if ← Scanner.skip "'" then literalRest
  else
    let bare ← Scanner.takeWhile isBareKeyChar
    if bare.isEmpty then throw .invalidKey
    return String.ofList bare

/-- A key of one or more parts with dots between them, and the blanks around it. -/
def key : Nat → Reader Key
  | 0 => throw .invalidKey
  | fuel + 1 => do
    blanks
    let part ← keyPart fuel
    blanks
    if ← Scanner.skip "." then return part :: (← key fuel) else return [part]

end Reader

/-! Numbers, dates and times -/

/-- The digits at the front, where single underscores may stand between digits. -/
def spanDigits (p : Char → Bool) : List Char → List Char × List Char
  | c :: '_' :: d :: rest =>
    if p c then
      if p d then
        let (digits, after) := spanDigits p (d :: rest)
        (c :: digits, after)
      else ([c], '_' :: d :: rest)
    else ([], c :: '_' :: d :: rest)
  | c :: rest =>
    if p c then
      let (digits, after) := spanDigits p rest
      (c :: digits, after)
    else ([], c :: rest)
  | [] => ([], [])

def baseValue (base : Nat) (digits : List Char) : Nat :=
  digits.foldl (fun value c =>
    base * value +
      (if c.isDigit then c.toNat - '0'.toNat else c.toLower.toNat - 'a'.toNat + 10)) 0

def basedInteger? : List Char → Option (Data × List Char)
  | '0' :: mark :: rest =>
    let base? : Option (Nat × (Char → Bool)) :=
      match mark with
      | 'x' => some (16, Char.isHexDigit)
      | 'o' => some (8, fun c => '0' ≤ c && c ≤ '7')
      | 'b' => some (2, fun c => c == '0' || c == '1')
      | _ => none
    base?.bind fun (base, isDigit) =>
      match spanDigits isDigit rest with
      | ([], _) => none
      | (digits, after) => some (.integer (baseValue base digits), after)
  | _ => none

/-- A sign at the front; says whether it is a minus. -/
def spanSign : List Char → Bool × List Char
  | '-' :: rest => (true, rest)
  | '+' :: rest => (false, rest)
  | cs => (false, cs)

/-- The whole part of a decimal number, which has no leading zeros. -/
def wholePart? : List Char → Option (List Char × List Char)
  | '0' :: rest => some (['0'], rest)
  | cs =>
    match spanDigits Char.isDigit cs with
    | ([], _) => none
    | found => some found

def fraction? : List Char → Option (List Char × List Char)
  | '.' :: rest =>
    match spanDigits Char.isDigit rest with
    | ([], _) => none
    | found => some found
  | _ => none

def exponent? : List Char → Option (Int × List Char)
  | mark :: rest =>
    if mark == 'e' || mark == 'E' then
      let (negative, cs) := spanSign rest
      match spanDigits Char.isDigit cs with
      | ([], _) => none
      | (digits, after) =>
        let value : Int := digitsValue 0 digits
        some (if negative then -value else value, after)
    else none
  | [] => none

def integerDigitBound : Nat := 4300

/-- A decimal number: an integer unless it has a fraction or an exponent. -/
def decimalNumber? (cs : List Char) : Option (Except Fault Data × List Char) :=
  let (negative, unsigned) := spanSign cs
  (wholePart? unsigned).map fun (whole, afterWhole) =>
    let (fraction, afterFraction) := (fraction? afterWhole).getD ([], afterWhole)
    let (exponent, rest) := ((exponent? afterFraction).map fun (value, rest) =>
      (some value, rest)).getD (none, afterFraction)
    if fraction.isEmpty && exponent.isNone then
      let value : Int := digitsValue 0 whole
      let outcome : Except Fault Data :=
        if integerDigitBound < whole.length then .error (.oversizedInteger whole.length)
        else .ok (.integer (if negative then -value else value))
      (outcome, rest)
    else
      let scale : Int := exponent.getD 0 - fraction.length
      (.ok (.real (.ofDecimal negative (digitsValue 0 (whole ++ fraction)) scale)), rest)

def specialNumber? (cs : List Char) : Option (Data × List Char) :=
  let (negative, unsigned) := spanSign cs
  if "inf".toList.isPrefixOf unsigned then some (.real (.infinite negative), unsigned.drop 3)
  else if "nan".toList.isPrefixOf unsigned then some (.real .notANumber, unsigned.drop 3)
  else none

/-- A number of exactly `count` digits that lies in a range. -/
def fixedNumber? (count low high : Nat) (cs : List Char) : Option (Nat × List Char) :=
  let digits := cs.take count
  let value := digitsValue 0 digits
  if digits.length = count && digits.all Char.isDigit && low ≤ value && value ≤ high then
    some (value, cs.drop count)
  else none

def afterMark? (mark : Char) : List Char → Option (List Char)
  | c :: rest => if c = mark then some rest else none
  | [] => none

def afterTime? (cs : List Char) : Option (List Char) := do
  let (_, cs) ← fixedNumber? 2 0 23 cs
  let cs ← afterMark? ':' cs
  let (_, cs) ← fixedNumber? 2 0 59 cs
  let cs ← afterMark? ':' cs
  let (_, cs) ← fixedNumber? 2 0 59 cs
  match cs with
  | '.' :: d :: rest => return if d.isDigit then rest.dropWhile Char.isDigit else cs
  | _ => return cs

def afterOffset? : List Char → Option (List Char)
  | c :: rest =>
    if c == 'Z' || c == 'z' then some rest
    else if c == '+' || c == '-' then do
      let (_, cs) ← fixedNumber? 2 0 23 rest
      let cs ← afterMark? ':' cs
      let (_, cs) ← fixedNumber? 2 0 59 cs
      return cs
    else none
  | [] => none

def isLeapYear (year : Nat) : Bool := year % 4 == 0 && (year % 100 != 0 || year % 400 == 0)

def daysInMonth (year month : Nat) : Nat :=
  if month == 2 then if isLeapYear year then 29 else 28
  else if month == 4 || month == 6 || month == 9 || month == 11 then 30
  else 31

/-- A date, with a time and an offset if they follow. A date that the calendar does not have is an
error. -/
def date? (cs : List Char) : Option (Except Fault Data × List Char) := do
  let (year, cs) ← fixedNumber? 4 0 9999 cs
  let cs ← afterMark? '-' cs
  let (month, cs) ← fixedNumber? 2 1 12 cs
  let cs ← afterMark? '-' cs
  let (day, cs) ← fixedNumber? 2 1 31 cs
  let rest :=
    match cs with
    | c :: more =>
      if c == 'T' || c == 't' || c == ' ' then
        match afterTime? more with
        | some afterClock => (afterOffset? afterClock).getD afterClock
        | none => cs
      else cs
    | [] => cs
  let outcome : Except Fault Data :=
    if year = 0 || decide (daysInMonth year month < day) then .error .invalidMoment
    else .ok .moment
  return (outcome, rest)

end ServiceWiring.Toml
