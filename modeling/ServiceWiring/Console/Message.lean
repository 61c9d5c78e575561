import ServiceWiring.Console.Screen
import ServiceWiring.Console.Tone

/-!
Messages on the console. Marks are printed on demand; colours only on a terminal, line by line and
never around an empty line.
-/

namespace ServiceWiring.Console

structure Style where
  /-- Whether messages have marks. -/
  marked : Bool
  /-- Whether colours are wanted; on a terminal they are unless they are refused. -/
  coloured : Option Bool := none
  terminal : Bool := false
deriving DecidableEq, Repr

def Style.usesColour (style : Style) : Bool := style.terminal && style.coloured.getD true

/-- Characters that are not printed: bell, backspace, vertical tab, form feed, carriage return. -/
def isDropped (c : Char) : Bool := ['\x07', '\x08', '\x0b', '\x0c', '\r'].contains c

def tabWidth : Nat := 8

/-- Replaces tabs by blanks up to the next stop, in text that starts at a column. -/
def expandTabs (columns : Char → Nat) (column : Nat) : List Char → List Char
  | [] => []
  | c :: rest =>
    if c = '\n' then c :: expandTabs columns 0 rest
    else if c = '\t' then
      let stop := (column / tabWidth + 1) * tabWidth
      List.replicate (stop - column) ' ' ++ expandTabs columns stop rest
    else c :: expandTabs columns (column + columns c) rest

def shown (screen : Screen) (text : String) : List Char :=
  expandTabs screen.columns 0 (text.toList.filter (!isDropped ·))

/-- The lines of a text; there is one more of them than there are line feeds. -/
def linesOf : List Char → List (List Char)
  | [] => [[]]
  | '\n' :: rest => [] :: linesOf rest
  | c :: rest =>
    match linesOf rest with
    | [] => [[c]]
    | line :: more => (c :: line) :: more

def colourLine (colour : Nat) (line : String) : String :=
  if line = "" then "" else "\x1b[" ++ toString colour ++ "m" ++ line ++ "\x1b[0m"

/-- Text as it is printed, line by line and with the end of the last line. -/
def paint (style : Style) (tone : Tone) (text : List Char) : String :=
  let lines := (linesOf text).map String.ofList
  let coloured := if style.usesColour then lines.map (colourLine tone.colour) else lines
  String.intercalate "\n" coloured ++ "\n"

def message (screen : Screen) (style : Style) (tone : Tone) (text : String) : String :=
  paint style tone (shown screen (if style.marked then tone.mark ++ text else text))

end ServiceWiring.Console
