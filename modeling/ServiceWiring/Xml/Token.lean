import ServiceWiring.Xml.Lexeme

/-!
The tokens of element content: tags, text and references to entities. Comments and processing
instructions are read and dropped. Tags are counted here, so that the tokens of the root element
end with its end tag and those of an entity are balanced.
-/

namespace ServiceWiring.Xml

open Text

inductive Token where
  /-- A start tag, or an empty-element tag if `closed`; attribute values are as written. -/
  | opening (name : String) (attributes : List (String × List Char)) (closed : Bool)
  | closing (name : String)
  | text (content : List Char)
  | entity (name : String)

namespace Reader

def attributes : Nat → List (String × List Char) → Reader (List (String × List Char) × Bool)
  | 0, _ => throw .unclosedToken
  | fuel + 1, done => do
    let space ← Scanner.takeWhile isBlank
    if ← Scanner.skip ">" then return (done.reverse, false)
    else if ← Scanner.skip "/>" then return (done.reverse, true)
    else
      if space.isEmpty then throw .invalidToken
      let name ← qualifiedName
      blanks
      Scanner.expect "=" .invalidToken
      blanks
      let value ← literal
      attributes fuel ((name, value) :: done)

/-- A tag whose `<` has been taken; `fuel` bounds the number of its attributes. -/
def tagRest (fuel : Nat) : Reader Token := do
  if ← Scanner.skip "/" then
    let name ← Scanner.takeWhile fun c => isNameChar c || c == ':'
    blanks
    Scanner.expect ">" .invalidToken
    return .closing (String.ofList name)
  else
    let name ← qualifiedName
    let (attributes, closed) ← attributes fuel []
    return .opening name attributes closed

def holdsSectionEnd : List Char → Bool
  | [] => false
  | c :: rest => ("]]>".toList.isPrefixOf (c :: rest)) || holdsSectionEnd rest

/-- A run of characters up to the next mark-up, which must not hold the end of a character data
section. -/
def textRun : Reader Token := do
  let run ← Scanner.takeWhile fun c => c != '<' && c != '&'
  if holdsSectionEnd run then throw .invalidToken
  return .text run

/-- The next token, or none where something without content was read. -/
def token? (fuel : Nat) : Reader (Option Token) := do
  if ← Scanner.skip "<!--" then
    commentRest
    return none
  else if ← Scanner.skip "<![CDATA[" then
    return some (.text (← Scanner.takeUntil "]]>" .unclosedToken))
  else if ← Scanner.skip "<?" then
    instructionRest
    return none
  else if ← Scanner.skip "<" then
    return some (← tagRest fuel)
  else if ← Scanner.skip "&" then
    match ← referenceRest with
    | .character c | .predefined c => return some (.text [c])
    | .entity name => return some (.entity name)
  else
    return some (← textRun)

/-- Where tokens end: with the element that the first tag opens, or with the input. -/
inductive Extent where
  | element
  | input
deriving DecidableEq

/-- The tokens up to the end of an extent; `depth` tags are open. -/
def tokens (extent : Extent) : Nat → Nat → List Token → Reader (List Token)
  | 0, _, _ => throw .unclosedToken
  | fuel + 1, depth, done => do
    if ← Scanner.atEnd then
      match extent with
      | .element => throw .unclosedToken
      | .input => if depth = 0 then return done.reverse else throw .unbalancedEntity
    else
      match ← token? fuel with
      | none => tokens extent fuel depth done
      | some found =>
        let continueAt (depth : Nat) : Reader (List Token) :=
          if extent = .element && depth = 0 then return (found :: done).reverse
          else tokens extent fuel depth (found :: done)
        match found with
        | .opening _ _ false => continueAt (depth + 1)
        | .opening _ _ true => continueAt depth
        | .closing _ => if depth = 0 then throw .unbalancedEntity else continueAt (depth - 1)
        | .text _ | .entity _ =>
          if extent = .element && depth = 0 then throw .invalidToken
          else tokens extent fuel depth (found :: done)

end Reader

/-- The tokens of an entity's replacement text, which has to be balanced. -/
def Token.ofReplacement (content : List Char) : Except Fault (List Token) := do
  let (found, _) ← Scanner.read (Reader.tokens .input (content.length + 1) 0 []) content
  return found

end ServiceWiring.Xml
