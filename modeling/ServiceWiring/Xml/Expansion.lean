import ServiceWiring.Xml.Doctype
import ServiceWiring.Xml.Token

/-!
Expansion of entities in attribute values and in content. An entity must not contain itself,
directly or through others, and all expansions of a document share one allowance of bytes.
-/

namespace ServiceWiring.Xml

open Text

abbrev Expansion (α : Type) := StateT Nat (Except Fault) α

namespace Expansion

def sizeOf (cs : List Char) : Nat := cs.foldl (fun size c => size + c.utf8Size) 0

def allowanceFloor : Nat := 8 * 1024 * 1024

def allowanceFactor : Nat := 100

/-- The allowance of a document. The whole document counts, with its line ends unified. A parser
that counts what it has read so far, as it was written, refuses the same documents but for large
ones whose entities are expanded early or which have many line ends of two characters. -/
def allowance (source : List Char) : Nat := max allowanceFloor (allowanceFactor * sizeOf source)

def spend (replacement : List Char) : Expansion Unit := do
  let amount := sizeOf replacement
  let left ← get
  if left < amount then throw .excessiveExpansion
  set (left - amount)

end Expansion

/-- A part of an attribute value: a blank as written, a character, or a reference to an entity. -/
inductive Piece where
  | blank
  | character (c : Char)
  | entity (name : String)

namespace Piece

def scan : Nat → List Piece → Reader (List Piece)
  | 0, _ => throw .unclosedToken
  | fuel + 1, done => do
    match ← Scanner.next? with
    | none => return done.reverse
    | some '<' => throw .invalidToken
    | some '&' =>
      match ← Reader.referenceRest with
      | .character c =>
        if c = ' ' then scan fuel (.blank :: done) else scan fuel (.character c :: done)
      | .predefined c => scan fuel (.character c :: done)
      | .entity name => scan fuel (.entity name :: done)
    | some c => if isBlank c then scan fuel (.blank :: done) else scan fuel (.character c :: done)

/-- The parts of a value. A space written as a character reference is a blank like any other. -/
def ofLiteral (cs : List Char) : Except Fault (List Piece) := do
  let (pieces, _) ← Scanner.read (scan (cs.length + 1) []) cs
  return pieces

end Piece

namespace Doctype

/-- Adds a blank to a value, which is held last character first. A value that is a list of words
has no blank at its start and none after another. -/
def pushBlank (tokenized : Bool) (value : List Char) : List Char :=
  if tokenized && (value.isEmpty || value.head? == some ' ') then value else ' ' :: value

/-- The replacement text of an entity in an attribute value; none if the reference is passed
over. -/
def replacementInValue (doctype : Doctype) (opened : List String) (name : String) :
    Except Fault (Option (List Char)) :=
  match doctype.entities.get? name with
  | none => if doctype.requiresDeclaration then throw .undefinedEntity else return none
  | some .external => throw .externalEntity
  | some .unparsed => throw .unparsedEntity
  | some (.internal replacement) =>
    if opened.contains name then throw .recursiveEntity else return some replacement

/-- Appends pieces to a value. The first argument bounds the nesting of entities, `opened` lists
those that the pieces stand in. -/
def expandPieces (doctype : Doctype) (tokenized : Bool) :
    Nat → List String → List Piece → List Char → Expansion (List Char)
  | 0, _, _, _ => throw .recursiveEntity
  | depth + 1, opened, pieces, value =>
    pieces.foldlM (fun value piece =>
      match piece with
      | .blank => return pushBlank tokenized value
      | .character c => return c :: value
      | .entity name => do
        match ← doctype.replacementInValue opened name with
        | none => return value
        | some replacement =>
          Expansion.spend replacement
          let inner ← Piece.ofLiteral replacement
          doctype.expandPieces tokenized depth (name :: opened) inner value) value

/-- A bound on the nesting of entities, none of which can be open twice. -/
def nesting (doctype : Doctype) : Nat := doctype.entities.entries.length + 1

/-- The value of an attribute that is written as `source` where the entities `opened` are being
replaced. -/
def attributeValue (doctype : Doctype) (tokenized : Bool) (opened : List String)
    (source : List Char) : Expansion String := do
  let pieces ← Piece.ofLiteral source
  let value ← doctype.expandPieces tokenized doctype.nesting opened pieces []
  let trimmed := if tokenized && value.head? == some ' ' then value.tail else value
  return String.ofList trimmed.reverse

end Doctype

inductive Event where
  | opening (name : String) (attributes : List (String × String))
  | closing (name : String)
  | text (content : String)

namespace Doctype

/-- The attributes of an element: those that are written, then the defaults of the others. -/
def attributesOf (doctype : Doctype) (opened : List String) (element : String)
    (written : List (String × List Char)) : Expansion (List (String × String)) := do
  let mut values : List (String × String) := []
  for (name, source) in written do
    if (values.lookup name).isSome then throw .duplicateAttribute
    let tokenized := ((doctype.ruleFor? element name).map (·.tokenized)).getD false
    values := (name, ← doctype.attributeValue tokenized opened source) :: values
  for rule in doctype.rulesFor element do
    match rule.fallback with
    | some value =>
      if (values.lookup rule.name).isNone then values := (rule.name, value) :: values
    | none => pure ()
  return values.reverse

/-- Appends the events of tokens to `done`, which is held last event first. -/
def expandTokens (doctype : Doctype) :
    Nat → List String → List Token → List Event → Expansion (List Event)
  | 0, _, _, _ => throw .recursiveEntity
  | depth + 1, opened, tokens, done =>
    tokens.foldlM (fun done token =>
      match token with
      | .opening name written closed => do
        let attributes ← doctype.attributesOf opened name written
        let begun := .opening name attributes :: done
        return if closed then .closing name :: begun else begun
      | .closing name => return .closing name :: done
      | .text content => return .text (String.ofList content) :: done
      | .entity name => do
        match doctype.entities.get? name with
        | none | some .external => throw .undefinedEntity
        | some .unparsed => throw .unparsedEntity
        | some (.internal replacement) =>
          if opened.contains name then throw .recursiveEntity
          Expansion.spend replacement
          let inner ← Token.ofReplacement replacement
          doctype.expandTokens depth (name :: opened) inner done) done

def events (doctype : Doctype) (tokens : List Token) : Expansion (List Event) := do
  return (← doctype.expandTokens doctype.nesting [] tokens []).reverse

end Doctype

end ServiceWiring.Xml
