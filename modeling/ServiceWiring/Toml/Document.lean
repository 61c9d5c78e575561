import ServiceWiring.Toml.Draft

/-!
Reading a TOML document from its text. A carriage return counts as part of a line end only before
a line feed; elsewhere it is a control character.
-/

namespace ServiceWiring.Toml

open Text

namespace Reader

def scalar : Reader Data := do
  if ← Scanner.skip "true" then return .boolean true
  else if ← Scanner.skip "false" then return .boolean false
  else
    let cs ← get
    match date? cs with
    | some (outcome, rest) =>
      set rest
      outcome
    | none =>
      match afterTime? cs with
      | some rest =>
        set rest
        return .moment
      | none =>
        match basedInteger? cs with
        | some (value, rest) =>
          set rest
          return value
        | none =>
          match decimalNumber? cs with
          | some (outcome, rest) =>
            set rest
            outcome
          | none =>
            match specialNumber? cs with
            | some (value, rest) =>
              set rest
              return value
            | none => throw .invalidValue

mutual

def value : Nat → Reader Data
  | 0 => throw .invalidValue
  | fuel + 1 => do
    match ← string? fuel with
    | some text => return .text text
    | none =>
      if ← Scanner.skip "[" then return .list (← items fuel [])
      else if ← Scanner.skip "\x7b" then do
        blanks
        if ← Scanner.skip "\x7d" then return .record []
        else return .record (← inlineFields fuel {})
      else scalar

/-- The rest of an array; `done` holds its items so far, last one first. -/
def items : Nat → List Data → Reader (List Data)
  | 0, _ => throw .unterminated
  | fuel + 1, done => do
    filler fuel
    if ← Scanner.skip "]" then return done.reverse
    else
      let item ← value fuel
      filler fuel
      if ← Scanner.skip "," then items fuel (item :: done)
      else
        Scanner.expect "]" .unterminated
        return (item :: done).reverse

/-- The rest of a table written in line, of which `draft` holds the fields so far. -/
def inlineFields : Nat → Draft → Reader (List (String × Data))
  | 0, _ => throw .unterminated
  | fuel + 1, draft => do
    let name ← key fuel
    Scanner.expect "=" .invalidKey
    blanks
    let item ← value fuel
    if draft.isClosed name then throw .closedTable
    let (outer, last) := Draft.splitLast name
    let fields ← (Draft.updateAt false (Draft.addField last item) outer draft.fields :
      Except Fault (List (String × Data)))
    blanks
    if ← Scanner.skip "," then
      let closed := if Draft.isNest item then name :: draft.closed else draft.closed
      blanks
      inlineFields fuel { draft with fields := fields, closed := closed }
    else
      Scanner.expect "\x7d" .unterminated
      return fields

end

def statement (fuel : Nat) (draft : Draft) : Reader Draft := do
  if ← Scanner.skip "[[" then
    let name ← key fuel
    let opened ← (draft.endSection.openItem name : Except Fault Draft)
    Scanner.expect "]]" .invalidStatement
    return opened
  else if ← Scanner.skip "[" then
    let name ← key fuel
    let opened ← (draft.endSection.openTable name : Except Fault Draft)
    Scanner.expect "]" .invalidStatement
    return opened
  else
    let name ← key fuel
    Scanner.expect "=" .invalidKey
    blanks
    let item ← value fuel
    (draft.addPair name item : Except Fault Draft)

/-- The lines of a document. Each holds at most one statement and a comment. -/
def lines : Nat → Draft → Reader (List (String × Data))
  | 0, _ => throw .invalidStatement
  | fuel + 1, draft => do
    blanks
    let next ← do
      if (← Scanner.atEnd) || (← Scanner.sees "\n") || (← Scanner.sees "#") then pure draft
      else statement (2 * fuel + 4) draft
    blanks
    comment
    if ← Scanner.atEnd then return next.fields
    else
      Scanner.expect "\n" .invalidStatement
      lines fuel next

end Reader

/-- Writes the line ends of two characters as line feeds. -/
def joinLineEnds : List Char → List Char
  | [] => []
  | '\r' :: '\n' :: rest => '\n' :: joinLineEnds rest
  | c :: rest => c :: joinLineEnds rest

def parse (s : String) : Except Fault (List (String × Data)) := do
  let source := joinLineEnds s.toList
  let (fields, _) ← Scanner.read (Reader.lines (source.length + 1) {}) source
  return fields

end ServiceWiring.Toml
