import ServiceWiring.Text.CaseTable

/-!
Full lower-casing of text. Dotted capital I becomes two characters, and a capital sigma becomes
the final form at the end of a word and the inner form elsewhere; every other character is mapped
by itself.
-/

namespace ServiceWiring.Text

/-- How far the lower-case form of a code point lies from it; the search ends at the first range
beyond the code point. -/
def caseShift? (code : Nat) : List CaseRange → Option Int
  | [] => none
  | range :: rest =>
    if code < range.first then none
    else if code ≤ range.last then
      if (code - range.first) % range.step = 0 then some range.shift else none
    else caseShift? code rest

/-- The lower-case form of a character that does not depend on its neighbours. -/
def lowerChar (c : Char) : List Char :=
  if c = '\u0130' then ['i', '\u0307']
  else match caseShift? c.toNat caseRanges with
    | some shift => [Char.ofNat (c.toNat + shift).toNat]
    | none => [c]

/-- Whether the first character that is not looked through is a letter with case. -/
def meetsCased (cs : List Char) : Bool :=
  match cs.dropWhile caseIgnorableRanges.contains with
  | [] => false
  | c :: _ => casedRanges.contains c

/-- A capital sigma after `before` (nearest character first) and before `after`: final if it ends
a word that has a letter before it. -/
def lowerSigma (before after : List Char) : Char :=
  if meetsCased before && !meetsCased after then 'ς' else 'σ'

def lowerAfter (before : List Char) : List Char → List Char
  | [] => []
  | c :: rest =>
    let here := if c = 'Σ' then [lowerSigma before rest] else lowerChar c
    here ++ lowerAfter (c :: before) rest

def lowercase (s : String) : String := String.ofList (lowerAfter [] s.toList)

end ServiceWiring.Text
