/-!
Readers of text: a reader takes characters from the front of its input and fails with a cause of
type `ε`. The input that is left is its state, so that a reader can be run on any list of
characters and its leftover inspected.
-/

namespace ServiceWiring.Text

abbrev Scanner (ε α : Type) := StateT (List Char) (Except ε) α

namespace Scanner

variable {ε α : Type}

/-- The next character, which stays in the input. -/
def peek : Scanner ε (Option Char) := do return (← get).head?

def atEnd : Scanner ε Bool := do return (← get).isEmpty

def next? : Scanner ε (Option Char) := do
  match ← get with
  | [] => return none
  | c :: rest =>
    set rest
    return some c

def takeWhile (p : Char → Bool) : Scanner ε (List Char) := do
  let (run, rest) := (← get).span p
  set rest
  return run

def skipWhile (p : Char → Bool) : Scanner ε Unit := do
  set ((← get).dropWhile p)

def sees (word : String) : Scanner ε Bool := do
  return word.toList.isPrefixOf (← get)

/-- Takes `word` if the input begins with it, and says whether it did. -/
def skip (word : String) : Scanner ε Bool := do
  if ← sees word then
    modify (·.drop word.length)
    return true
  else
    return false

def expect (word : String) (cause : ε) : Scanner ε Unit := do
  unless ← skip word do throw cause

/-- What stands before the first `word`, which is taken too; fails if there is none. -/
def takeUntil (word : String) (cause : ε) : Scanner ε (List Char) := do
  go word.toList [] (← get)
where
  go (mark before : List Char) : List Char → Scanner ε (List Char)
    | [] =>
      if mark.isEmpty then do set ([] : List Char); return before.reverse else throw cause
    | c :: rest =>
      if mark.isPrefixOf (c :: rest) then do
        set ((c :: rest).drop mark.length)
        return before.reverse
      else go mark (c :: before) rest

/-- Runs a reader on the whole of `cs` and gives its value with what it left. -/
def read (scanner : Scanner ε α) (cs : List Char) : Except ε (α × List Char) := scanner.run cs

end Scanner

end ServiceWiring.Text
