import ServiceWiring.Xml.Expansion

/-!
Reading declarations: the XML declaration at the head of a document and the document type
declaration with its internal subset. Entities and attribute defaults are taken down; content
models and notations are only checked.
-/

namespace ServiceWiring.Xml

open Text

namespace Reader

/-! The XML declaration -/

def isPseudoValueChar (c : Char) : Bool := c.isAlphanum || c == '.' || c == '-' || c == '_'

/-- An item `name="value"` of the XML declaration after blanks, or none at its end. -/
def pseudoAttribute? : Reader (Option (String × String)) := do
  if ← Scanner.atEnd then return none
  gap .malformedDeclaration
  if ← Scanner.atEnd then return none
  let name ← Scanner.takeWhile fun c => c != '=' && !isBlank c
  if name.isEmpty then throw .malformedDeclaration
  blanks
  Scanner.expect "=" .malformedDeclaration
  blanks
  let value ← literal
  unless value.all isPseudoValueChar do throw .malformedDeclaration
  return some (String.ofList name, String.ofList value)

/-- Whether a declaration says that the document stands alone. The version comes first, then the
encoding and the standing, each of which may be left out; the encoding named does not matter. -/
def declarationBody : Reader Bool := do
  match ← pseudoAttribute? with
  | some ("version", _) =>
    match ← pseudoAttribute? with
    | none => return false
    | some ("encoding", encoding) =>
      unless (encoding.toList.head?.map Char.isAlpha).getD false do throw .malformedDeclaration
      match ← pseudoAttribute? with
      | none => return false
      | some item => standing item
    | some item => standing item
  | _ => throw .malformedDeclaration
where
  standing (item : String × String) : Reader Bool := do
    blanks
    unless ← Scanner.atEnd do throw .malformedDeclaration
    match item with
    | ("standalone", "yes") => return true
    | ("standalone", "no") => return false
    | _ => throw .malformedDeclaration

/-- The XML declaration, if the input begins with one; says whether the document stands alone. -/
def declaration : Reader Bool := do
  let begun := "<?xml".toList
  let here ← get
  let isDeclaration := begun.isPrefixOf here &&
    !((here.drop begun.length).head?.map isNameChar).getD false
  if isDeclaration then
    modify (·.drop begun.length)
    let body ← Scanner.takeUntil "?>" .unclosedToken
    let (standalone, _) ← Scanner.read declarationBody body
    return standalone
  else
    return false

/-! Words of declarations -/

/-- What may follow a word of a declaration. -/
def endsWord (c : Char) : Bool := isBlank c || [')', '>', ',', '|', '['].contains c

def requireNext (p : Char → Bool) : Reader Unit := do
  match ← Scanner.peek with
  | some c => unless p c do throw .invalidToken
  | none => throw .unclosedToken

def wordName : Reader String := do
  blanks
  let name ← plainName
  requireNext endsWord
  return name

def wordQualifiedName : Reader String := do
  blanks
  let name ← qualifiedName
  requireNext endsWord
  return name

def wordLiteral : Reader (List Char) := do
  blanks
  let value ← literal
  requireNext fun c => isBlank c || c == '>' || c == '['
  return value

def declarationEnd : Reader Unit := do
  blanks
  Scanner.expect ">" .malformedDoctype

def isPublicIdChar (c : Char) : Bool :=
  c.isAlphanum || c == ' ' || c == '\n' || c == '\r' || "-'()+,./:=?;!*#@$_%".toList.contains c

def publicId : Reader Unit := do
  let value ← wordLiteral
  unless value.all isPublicIdChar do throw .invalidPublicId

/-- A reference to something outside the document that has a system identifier, whose keyword has
been read. -/
def externalId (keyword : String) : Reader Unit := do
  match keyword with
  | "SYSTEM" => let _ ← wordLiteral
  | "PUBLIC" =>
    publicId
    let _ ← wordLiteral
  | _ => throw .malformedDoctype

/-! Entities -/

/-- The replacement text of an entity: character references are resolved, references to entities
are kept. -/
def replacementText : Nat → List Char → Reader (List Char)
  | 0, _ => throw .unclosedToken
  | fuel + 1, done => do
    match ← Scanner.next? with
    | none => return done.reverse
    | some '%' =>
      let _ ← plainName
      Scanner.expect ";" .invalidToken
      throw .parameterReference
    | some '&' =>
      let before ← get
      match ← referenceRest with
      | .character c => replacementText fuel (c :: done)
      | .predefined _ | .entity _ =>
        let taken := before.take (before.length - (← get).length)
        replacementText fuel (taken.reverse ++ '&' :: done)
    | some c => replacementText fuel (c :: done)

def replacementOf (value : List Char) : Except Fault (List Char) := do
  let (text, _) ← Scanner.read (replacementText (value.length + 1) []) value
  return text

/-- The definition of an entity. A parameter entity has no use in the document itself, but its
value has to be sound as long as declarations are taken down. -/
def entityDefinition (doctype : Doctype) (parameter : Bool) : Reader Entity := do
  blanks
  match ← Scanner.peek with
  | some '"' | some '\'' =>
    let value ← wordLiteral
    declarationEnd
    if doctype.recording then return .internal (← replacementOf value)
    else return .internal []
  | _ =>
    externalId (← wordName)
    blanks
    if parameter || (← Scanner.sees ">") then
      declarationEnd
      return .external
    else
      unless (← wordName) == "NDATA" do throw .malformedDoctype
      let _ ← wordName
      declarationEnd
      return .unparsed

def entityDeclaration (doctype : Doctype) : Reader Doctype := do
  blanks
  if ← Scanner.skip "%" then
    gap .malformedDoctype
    let _ ← wordName
    let _ ← entityDefinition doctype true
    return doctype
  else
    let name ← wordName
    return doctype.declareEntity name (← entityDefinition doctype false)

/-! Attributes -/

def groupEnd : Reader Unit := do
  Scanner.expect ")" .malformedDoctype
  requireNext fun c => isBlank c || ['>', ',', '|', ')'].contains c

/-- The choices of an enumerated type, whose opening parenthesis has been read. -/
def choices (choice : Reader Unit) : Nat → Reader Unit
  | 0 => throw .unclosedToken
  | fuel + 1 => do
    blanks
    choice
    blanks
    if ← Scanner.skip "|" then choices choice fuel else groupEnd

def nameToken : Reader Unit := do
  if (← Scanner.takeWhile fun c => isNameChar c || c == ':').isEmpty then throw .invalidToken
  requireNext endsWord

def tokenizedTypes : List String :=
  ["ID", "IDREF", "IDREFS", "ENTITY", "ENTITIES", "NMTOKEN", "NMTOKENS"]

/-- The type of an attribute; says whether its values are lists of words. -/
def attributeType (fuel : Nat) : Reader Bool := do
  blanks
  if ← Scanner.skip "(" then
    choices nameToken fuel
    return true
  else
    let type ← wordName
    if type == "CDATA" then return false
    else if tokenizedTypes.contains type then return true
    else if type == "NOTATION" then
      blanks
      Scanner.expect "(" .malformedDoctype
      choices (do let _ ← wordName) fuel
      return true
    else throw .malformedDoctype

def attributeDefault : Reader (Option (List Char)) := do
  blanks
  if ← Scanner.skip "#" then
    let keyword ← plainName
    requireNext fun c => isBlank c || [')', '>', '|'].contains c
    match keyword with
    | "IMPLIED" | "REQUIRED" => return none
    | "FIXED" => return some (← wordLiteral)
    | _ => throw .malformedDoctype
  else
    return some (← wordLiteral)

def attributeRules (element : String) : Nat → Doctype → Nat → Reader (Doctype × Nat)
  | 0, _, _ => throw .unclosedToken
  | fuel + 1, doctype, allowance => do
    blanks
    if ← Scanner.skip ">" then return (doctype, allowance)
    else
      let name ← wordQualifiedName
      let tokenized ← attributeType fuel
      match ← attributeDefault with
      | none =>
        attributeRules element fuel (doctype.declareAttribute element ⟨name, tokenized, none⟩)
          allowance
      | some source =>
        if doctype.recording then
          let (value, left) ← (doctype.attributeValue tokenized [] source).run allowance
          attributeRules element fuel
            (doctype.declareAttribute element ⟨name, tokenized, some value⟩) left
        else attributeRules element fuel doctype allowance

def attributeDeclaration (fuel : Nat) (doctype : Doctype) (allowance : Nat) :
    Reader (Doctype × Nat) := do
  let element ← wordQualifiedName
  attributeRules element fuel doctype allowance

/-! Content models and notations -/

/-- The mark behind an item of a content model; without one the item has to end like a word. -/
def occurrence : Reader Unit := do
  match ← Scanner.peek with
  | some '?' | some '*' | some '+' => let _ ← Scanner.next?
  | _ => requireNext endsWord

def mixedModel : Nat → Reader Unit
  | 0 => throw .unclosedToken
  | fuel + 1 => do
    blanks
    if ← Scanner.skip ")*" then return ()
    Scanner.expect "|" .malformedDoctype
    let _ ← wordQualifiedName
    mixedModel fuel

/-- The rest of a content model of elements. For each open group the separator that it uses is
kept, once it has been seen; `due` says that an item has to come next. -/
def elementModel : Nat → List (Option Char) → Bool → Reader Unit
  | 0, _, _ => throw .unclosedToken
  | _, [], _ => return ()
  | fuel + 1, group :: outer, true => do
    blanks
    if ← Scanner.skip "(" then elementModel fuel (none :: group :: outer) true
    else
      let _ ← qualifiedName
      occurrence
      elementModel fuel (group :: outer) false
  | fuel + 1, group :: outer, false => do
    blanks
    match ← Scanner.next? with
    | some ')' =>
      match ← Scanner.peek with
      | some '?' | some '*' | some '+' => let _ ← Scanner.next?
      | _ => requireNext fun c => isBlank c || ['>', ',', '|', ')'].contains c
      elementModel fuel outer false
    | some c =>
      if (c == ',' || c == '|') && (group.isNone || group == some c) then
        elementModel fuel (some c :: outer) true
      else throw .malformedDoctype
    | none => throw .unclosedToken

def elementDeclaration (fuel : Nat) : Reader Unit := do
  let _ ← wordQualifiedName
  blanks
  if ← Scanner.skip "(" then
    blanks
    if ← Scanner.skip "#" then
      unless (← plainName) == "PCDATA" do throw .malformedDoctype
      requireNext fun c => isBlank c || [')', '>', '|'].contains c
      blanks
      if ← Scanner.skip ")*" then declarationEnd
      else if ← Scanner.sees ")" then
        groupEnd
        declarationEnd
      else
        mixedModel fuel
        declarationEnd
    else
      elementModel fuel [none] true
      declarationEnd
  else
    let content ← wordName
    unless content == "EMPTY" || content == "ANY" do throw .malformedDoctype
    declarationEnd

def notationDeclaration : Reader Unit := do
  let _ ← wordName
  match ← wordName with
  | "SYSTEM" => let _ ← wordLiteral
  | "PUBLIC" =>
    publicId
    blanks
    unless ← Scanner.sees ">" do let _ ← wordLiteral
  | _ => throw .malformedDoctype
  declarationEnd

/-! The document type declaration -/

def internalSubset : Nat → Doctype → Nat → Reader (Doctype × Nat)
  | 0, _, _ => throw .unclosedToken
  | fuel + 1, doctype, allowance => do
    blanks
    if ← Scanner.skip "]" then return (doctype, allowance)
    else if ← Scanner.skip "<!--" then
      commentRest
      internalSubset fuel doctype allowance
    else if ← Scanner.skip "<?" then
      instructionRest
      internalSubset fuel doctype allowance
    else if ← Scanner.skip "%" then
      let _ ← plainName
      Scanner.expect ";" .invalidToken
      internalSubset fuel doctype.skipDeclarations allowance
    else if ← Scanner.skip "<!ENTITY" then
      gap .invalidToken
      internalSubset fuel (← entityDeclaration doctype) allowance
    else if ← Scanner.skip "<!ATTLIST" then
      gap .invalidToken
      let (doctype, allowance) ← attributeDeclaration fuel doctype allowance
      internalSubset fuel doctype allowance
    else if ← Scanner.skip "<!ELEMENT" then
      gap .invalidToken
      elementDeclaration fuel
      internalSubset fuel doctype allowance
    else if ← Scanner.skip "<!NOTATION" then
      gap .invalidToken
      notationDeclaration
      internalSubset fuel doctype allowance
    else throw .malformedDoctype

/-- The document type declaration, whose first word has been read. An external subset is not
read. -/
def doctypeRest (fuel : Nat) (doctype : Doctype) (allowance : Nat) : Reader (Doctype × Nat) := do
  gap .invalidToken
  let _ ← wordQualifiedName
  blanks
  let mut doctype := doctype
  unless (← Scanner.sees "[") || (← Scanner.sees ">") do
    externalId (← wordName)
    doctype := { doctype with incomplete := true }
    blanks
  if ← Scanner.skip "[" then
    let (found, left) ← internalSubset fuel doctype allowance
    declarationEnd
    return (found, left)
  else
    declarationEnd
    return (doctype, allowance)

end Reader

end ServiceWiring.Xml
