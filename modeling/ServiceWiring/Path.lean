/-!
Slash-separated paths in normal form. A path is an anchor and a list of segments; empty segments
and `.` are dropped when text is read, `..` is kept. Two leading slashes are an anchor of their
own, three or more are one.
-/

namespace ServiceWiring

inductive Anchor where
  | relative
  | slash
  | doubleSlash
deriving DecidableEq, Repr

structure Path where
  anchor : Anchor
  segments : List String
deriving DecidableEq, Repr

namespace Path

/-- The runs of characters between slashes; there is one more of them than there are slashes. -/
def splitSlashes : List Char → List (List Char)
  | [] => [[]]
  | '/' :: rest => [] :: splitSlashes rest
  | c :: rest =>
    match splitSlashes rest with
    | [] => [[c]]
    | segment :: more => (c :: segment) :: more

def isSegment (cs : List Char) : Bool := !cs.isEmpty && cs != ['.']

def anchorOf (cs : List Char) : Anchor :=
  match (cs.takeWhile (· == '/')).length with
  | 0 => .relative
  | 2 => .doubleSlash
  | _ => .slash

def ofString (s : String) : Path where
  anchor := anchorOf s.toList
  segments := ((splitSlashes s.toList).filter isSegment).map String.ofList

/-- The text of a path; the relative path without segments is `.`. -/
def toString (p : Path) : String :=
  let body := String.intercalate "/" p.segments
  match p.anchor with
  | .relative => if p.segments.isEmpty then "." else body
  | .slash => "/" ++ body
  | .doubleSlash => "//" ++ body

instance : ToString Path := ⟨toString⟩

def isAbsolute (p : Path) : Bool := p.anchor != .relative

/-- `p` seen from the directory `base`: an absolute path stays as it is. -/
def join (base p : Path) : Path :=
  if p.isAbsolute then p else ⟨base.anchor, base.segments ++ p.segments⟩

def parent (p : Path) : Path := ⟨p.anchor, p.segments.dropLast⟩

/-- The last segment, empty if there is none. -/
def name (p : Path) : String := p.segments.getLast?.getD ""

/-- Whether a NUL character stands in the path, which no file can be opened by. -/
def hasNul (p : Path) : Bool := p.segments.any (·.toList.contains '\x00')

end Path

end ServiceWiring
