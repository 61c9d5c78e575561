import ServiceWiring.Text.Scanner
import ServiceWiring.Xml.Fault
import ServiceWiring.Xml.NameTable

/-!
The smallest readable parts of XML: characters, blanks, names, references, comments and processing
instructions.
-/

namespace ServiceWiring.Xml

open Text

abbrev Reader (α : Type) := Scanner Fault α

def isLegal (c : Char) : Bool :=
  c == '\t' || c == '\n' || c == '\r' ||
    (0x20 ≤ c.toNat && c.toNat != 0xFFFE && c.toNat != 0xFFFF)

def isBlank (c : Char) : Bool := c == ' ' || c == '\t' || c == '\n' || c == '\r'

def isNameStart (c : Char) : Bool := nameStartRanges.contains c

def isNameChar (c : Char) : Bool := nameRanges.contains c

namespace Reader

def blanks : Reader Unit := Scanner.skipWhile isBlank

/-- Blanks, at least one. -/
def gap (cause : Fault) : Reader Unit := do
  if (← Scanner.takeWhile isBlank).isEmpty then throw cause

/-- A name without a colon. -/
def plainName : Reader String := do
  match ← Scanner.peek with
  | some c =>
    if isNameStart c then return String.ofList (← Scanner.takeWhile isNameChar)
    else throw .invalidToken
  | none => throw .unclosedToken

/-- A name with at most one colon, which stands between two plain names. -/
def qualifiedName : Reader String := do
  let first ← plainName
  if ← Scanner.skip ":" then return first ++ ":" ++ (← plainName)
  else return first

def literal : Reader (List Char) := do
  if ← Scanner.skip "\"" then Scanner.takeUntil "\"" .unclosedToken
  else if ← Scanner.skip "'" then Scanner.takeUntil "'" .unclosedToken
  else throw .invalidToken

/-- The rest of a comment that has been opened: two hyphens can only be its end. -/
def commentRest : Reader Unit := do
  let _ ← Scanner.takeUntil "--" .unclosedToken
  Scanner.expect ">" .invalidToken

/-- Whether a target is the word that is kept for the XML declaration, in any case. -/
def isDeclarationTarget (target : String) : Bool :=
  target.toList.map Char.toLower == ['x', 'm', 'l']

def instructionRest : Reader Unit := do
  let target ← plainName
  if isDeclarationTarget target then throw .misplacedDeclaration
  unless ← Scanner.skip "?>" do
    gap .invalidToken
    let _ ← Scanner.takeUntil "?>" .unclosedToken

end Reader

/-- What a reference stands for: a character, or an entity that has to be looked up. -/
inductive Reference where
  | character (c : Char)
  | predefined (c : Char)
  | entity (name : String)

def predefinedEntity? : String → Option Char
  | "lt" => some '<'
  | "gt" => some '>'
  | "amp" => some '&'
  | "quot" => some '"'
  | "apos" => some '\''
  | _ => none

def digitValue? (base : Nat) (c : Char) : Option Nat :=
  let value? :=
    if '0' ≤ c && c ≤ '9' then some (c.toNat - '0'.toNat)
    else if 'a' ≤ c && c ≤ 'f' then some (c.toNat - 'a'.toNat + 10)
    else if 'A' ≤ c && c ≤ 'F' then some (c.toNat - 'A'.toNat + 10)
    else none
  value?.filter (· < base)

def legalCharacter? (code : Nat) : Option Char :=
  if h : code.isValidChar then
    let c := Char.ofNatAux code h
    if isLegal c then some c else none
  else none

namespace Reader

def characterNumber (base : Nat) : Reader Char := do
  let digits ← Scanner.takeWhile fun c => (digitValue? base c).isSome
  if digits.isEmpty then throw .invalidToken
  Scanner.expect ";" .invalidToken
  let code := digits.foldl (fun code c => base * code + (digitValue? base c).getD 0) 0
  match legalCharacter? code with
  | some c => return c
  | none => throw .invalidCharacterReference

/-- The rest of a reference whose ampersand has been taken. -/
def referenceRest : Reader Reference := do
  if ← Scanner.skip "#x" then return .character (← characterNumber 16)
  else if ← Scanner.skip "#" then return .character (← characterNumber 10)
  else
    let name ← plainName
    Scanner.expect ";" .invalidToken
    match predefinedEntity? name with
    | some c => return .predefined c
    | none => return .entity name

end Reader

end ServiceWiring.Xml
