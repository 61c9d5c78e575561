import ServiceWiring.Proofs.Loading

/-!
Texts that have the same lines. Such texts differ at most in how the ends of their lines are
written, and to unify the line ends is to choose one text among those with the same lines. A
document is read from the lines of its text alone, so a file holds the dump of every text that has
its lines, above all of the text that it was written from.
-/

namespace ServiceWiring

namespace Text

variable {first second rest : List Char} {c : Char}

/-- The characters are the end of a line in front of the rest of a text; a carriage return is not
cut off from a line feed behind it. -/
inductive IsLineEnd : List Char → List Char → Prop
  | lineFeed {rest : List Char} : IsLineEnd ['\n'] rest
  | both {rest : List Char} : IsLineEnd ['\r', '\n'] rest
  | carriageReturn {rest : List Char} : rest.head? ≠ some '\n' → IsLineEnd ['\r'] rest

inductive SameLines : List Char → List Char → Prop
  | nil : SameLines [] []
  | char {c : Char} {first second : List Char} : c ≠ '\r' → c ≠ '\n' → SameLines first second →
      SameLines (c :: first) (c :: second)
  | lineEnd {one other first second : List Char} : IsLineEnd one first → IsLineEnd other second →
      SameLines first second → SameLines (one ++ first) (other ++ second)

/-- A text that is not empty begins with the end of a line or with another character. -/
theorem exists_lineEnd_or_char (c : Char) (rest : List Char) :
    (∃ mark after, c :: rest = mark ++ after ∧ IsLineEnd mark after) ∨ c ≠ '\r' ∧ c ≠ '\n' := by
  by_cases hfeed : c = '\n'
  · subst hfeed
    exact .inl ⟨['\n'], rest, rfl, .lineFeed⟩
  by_cases hreturn : c = '\r'
  · subst hreturn
    by_cases hboth : rest.head? = some '\n'
    · obtain ⟨after, rfl⟩ := List.head?_eq_some_iff.1 hboth
      exact .inl ⟨['\r', '\n'], after, rfl, .both⟩
    · exact .inl ⟨['\r'], rest, rfl, .carriageReturn hboth⟩
  · exact .inr ⟨hreturn, hfeed⟩

theorem unifyLineEnds_char (hreturn : c ≠ '\r') :
    unifyLineEnds (c :: rest) = c :: unifyLineEnds rest := by
  rw [unifyLineEnds, if_neg hreturn]
  intro after hc
  exact absurd hc hreturn

theorem unifyLineEnds_lineEnd {mark : List Char} (hmark : IsLineEnd mark rest) :
    unifyLineEnds (mark ++ rest) = '\n' :: unifyLineEnds rest := by
  cases hmark with
  | lineFeed => exact unifyLineEnds_char (by decide)
  | both => rfl
  | carriageReturn hrest =>
    rw [List.singleton_append, unifyLineEnds, if_pos rfl]
    rintro after - rfl
    exact hrest rfl

theorem unifyLineEnds_eq_nil_iff {text : List Char} : unifyLineEnds text = [] ↔ text = [] := by
  cases text with
  | nil => simp [unifyLineEnds]
  | cons c rest =>
    rcases exists_lineEnd_or_char c rest with ⟨mark, after, htext, hmark⟩ | ⟨hreturn, -⟩
    · rw [htext, unifyLineEnds_lineEnd hmark, ← htext]
      simp
    · simp [unifyLineEnds_char hreturn]

/-- Where unified text goes on, the text itself has the end of a line or the same character. -/
theorem exists_of_unifyLineEnds_cons {text : List Char}
    (hunified : unifyLineEnds text = c :: rest) :
    (∃ mark after, text = mark ++ after ∧ IsLineEnd mark after ∧ c = '\n' ∧
      unifyLineEnds after = rest) ∨
    ∃ after, text = c :: after ∧ c ≠ '\r' ∧ c ≠ '\n' ∧ unifyLineEnds after = rest := by
  cases text with
  | nil => cases hunified
  | cons first after =>
    rcases exists_lineEnd_or_char first after with ⟨mark, after, htext, hmark⟩ | ⟨hreturn, hfeed⟩
    · rw [htext, unifyLineEnds_lineEnd hmark] at hunified
      cases hunified
      exact .inl ⟨mark, after, htext, hmark, rfl, rfl⟩
    · rw [unifyLineEnds_char hreturn] at hunified
      cases hunified
      exact .inr ⟨after, rfl, hreturn, hfeed, rfl⟩

/-- Texts have the same lines exactly if they are the same once their line ends are unified. -/
theorem sameLines_iff : SameLines first second ↔ unifyLineEnds first = unifyLineEnds second := by
  constructor
  · intro hsame
    induction hsame with
    | nil => rfl
    | char hreturn _ _ ih => rw [unifyLineEnds_char hreturn, unifyLineEnds_char hreturn, ih]
    | lineEnd hone hother _ ih =>
      rw [unifyLineEnds_lineEnd hone, unifyLineEnds_lineEnd hother, ih]
  · intro hsame
    -- the two texts are cut in parallel, as the text that both are unified to goes on
    generalize hunified : unifyLineEnds second = unified at hsame
    induction unified generalizing first second with
    | nil =>
      rw [unifyLineEnds_eq_nil_iff] at hsame hunified
      rw [hsame, hunified]
      exact .nil
    | cons c rest ih =>
      rcases exists_of_unifyLineEnds_cons hsame with
        ⟨one, first, rfl, hone, rfl, hfirst⟩ | ⟨first, rfl, hreturn, hfeed, hfirst⟩
      · rcases exists_of_unifyLineEnds_cons hunified with
          ⟨other, second, rfl, hother, -, hsecond⟩ | ⟨second, rfl, -, hfeed, -⟩
        · exact .lineEnd hone hother (ih hsecond hfirst)
        · exact absurd rfl hfeed
      · rcases exists_of_unifyLineEnds_cons hunified with
          ⟨other, second, rfl, -, hline, -⟩ | ⟨second, rfl, -, -, hsecond⟩
        · exact absurd hline hfeed
        · exact .char hreturn hfeed (ih hsecond hfirst)

instance (first second : List Char) : Decidable (SameLines first second) :=
  decidable_of_iff _ sameLines_iff.symm

/-- One line end is not two. -/
example : ¬ SameLines ['\r', '\n'] ['\r', '\r'] := by decide

/-- To unify the line ends of a text leaves its lines as they are. -/
theorem sameLines_unifyLineEnds (text : List Char) : SameLines (unifyLineEnds text) text :=
  sameLines_iff.2 (unifyLineEnds_idem text)

end Text

namespace Dump

/-- A document depends on the lines of its text alone. -/
theorem ofText_congr {first second : String} (hlines : Text.SameLines first.toList second.toList)
    (source : String) : ofText source first = ofText source second := by
  unfold ofText Xml.Node.ofText
  rw [Text.sameLines_iff.1 hlines]

/-- A file and the text that it was written from load alike: both fail, with the same failure, or
both give the same dump, whatever the line ends in them and whether or not they begin with a mark
of byte order. So does every other text that has the same lines. -/
theorem file_loads_as_its_text (tree : FileTree) (path : Path) (text : String)
    (hplain : path.hasNul = false) (hfile : tree.content path = .ok text.toByteArray) :
    ((∃ failure, ofFile tree path = .error (.failed failure) ∧
        ofText path.toString text = .error failure) ∨
      ∃ dump, ofFile tree path = .ok dump ∧ ofText path.toString text = .ok dump) ∧
    ∀ other : String, Text.SameLines text.toList other.toList →
      ofText path.toString other = ofText path.toString text := by
  have hunified : Text.SameLines (String.ofList (Text.unifyLineEnds text.toList)).toList
      text.toList := by
    rw [String.toList_ofList]
    exact Text.sameLines_unifyLineEnds text.toList
  have hload : ofFile tree path = (ofText path.toString text).mapError .failed := by
    rw [ofFile_of_readText (FileTree.readText_of_toByteArray hplain hfile), ofText_congr hunified]
  constructor
  · rw [hload]
    cases ofText path.toString text with
    | error failure => exact .inl ⟨failure, rfl, rfl⟩
    | ok dump => exact .inr ⟨dump, rfl, rfl⟩
  · intro other hlines
    exact (ofText_congr hlines path.toString).symm

/-- Line ends of all kinds in an attribute, in an entity and between elements. A line end in an
identifier is one blank of it, while a carriage return that is written as a reference stays. -/
theorem mailer_across_line_ends :
    let path : Path := ⟨.relative, ["dev.xml"]⟩
    let text := "\ufeff<!DOCTYPE c [<!ENTITY e \"b\r\nc\">]>\r" ++
      "<c><services>\r\n<service id=\"a\r\n&e;\r&#13;\"/>\n</services></c>"
    let other := String.ofList (Text.unifyLineEnds text.toList)
    let tree := FileTree.ofEntries [(path, .file text.toByteArray)]
    ∃ dump, ofFile tree path = .ok dump ∧ ofText "dev.xml" text = .ok dump ∧
      ofText "dev.xml" other = .ok dump ∧
      dump.services = [⟨"a b c \r", none, .internal⟩] := by
  intro path text other tree
  obtain ⟨hload, hothers⟩ := file_loads_as_its_text tree path text (by decide) rfl
  have hservices : (ofText "dev.xml" text).toOption.map (·.services) =
      some [⟨"a b c \r", none, .internal⟩] := by
    decide +kernel
  have hname : path.toString = "dev.xml" := by decide +kernel
  rw [hname] at hload hothers
  have hlines : Text.SameLines text.toList other.toList := by
    rw [Text.sameLines_iff, String.toList_ofList, Text.unifyLineEnds_idem]
  have hother : ofText "dev.xml" other = ofText "dev.xml" text := hothers other hlines
  rcases hload with ⟨failure, -, htext⟩ | ⟨dump, hfile, htext⟩
  · rw [htext] at hservices
    cases hservices
  · rw [htext] at hservices
    exact ⟨dump, hfile, htext, hother.trans htext, Option.some.inj hservices⟩

end Dump

end ServiceWiring
