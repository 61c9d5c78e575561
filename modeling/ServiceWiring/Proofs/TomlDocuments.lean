import ServiceWiring.Proofs.TomlNumerals

/-!
Which documents have a decimal integer that is too long to be read: a document that is refused for
the length of an integer has a numeral of that length.
-/

namespace ServiceWiring.Toml

open Text

variable {α β : Type} {cs : List Char}

/-! Tables under construction -/

/-- Nothing is refused for the length of an integer. -/
def Lenient (outcome : Except Fault α) : Prop :=
  ∀ fault, outcome = .error fault → fault.isOversized = false

namespace Lenient

theorem ok (value : α) : Lenient (.ok value) := nofun

theorem throw {fault : Fault} (hfault : fault.isOversized = false) :
    Lenient (.error fault : Except Fault α) := by
  rintro _ ⟨⟩
  exact hfault

theorem bind {outcome : Except Fault α} {next : α → Except Fault β}
    (houtcome : Lenient outcome) (hnext : ∀ value, Lenient (next value)) :
    Lenient (outcome >>= next) := by
  cases outcome with
  | ok value => exact hnext value
  | error fault => exact .throw (houtcome fault rfl)

theorem ite {c : Prop} [Decidable c] {first second : Except Fault α} (hfirst : Lenient first)
    (hsecond : Lenient second) : Lenient (if c then first else second) := by
  split
  · exact hfirst
  · exact hsecond

theorem honest {outcome : Except Fault α} (h : Lenient outcome) :
    Honest (outcome : Reader α) := by
  intro cs
  cases outcome with
  | ok value => exact .ok List.suffix_rfl
  | error fault => exact .other (h fault rfl)

end Lenient

namespace Draft

variable {fields : List (String × Data)}

theorem lenient_updateAt (throughArrays : Bool)
    {update : List (String × Data) → Except Fault (List (String × Data))}
    (hupdate : ∀ fields, Lenient (update fields)) (place : Key) :
    Lenient (updateAt throughArrays update place fields) := by
  induction place generalizing fields with
  | nil => exact hupdate fields
  | cons part rest ih =>
    unfold updateAt
    dsimp only
    split
    · exact ih.bind fun _ => .ok _
    · exact ih.bind fun _ => .ok _
    · split
      · exact ih.bind fun _ => .ok _
      · exact .throw rfl
    · exact .throw rfl

theorem lenient_addField (name : String) (value : Data) :
    Lenient (addField name value fields) := .ite (.throw rfl) (.ok _)

theorem lenient_addItem (name : String) : Lenient (addItem name fields) := by
  unfold addItem
  split
  · exact .ok _
  · exact .ok _
  · exact .throw rfl

theorem lenient_openTable (draft : Draft) (key : Key) : Lenient (draft.openTable key) :=
  .ite (.throw rfl) ((lenient_updateAt true (fun _ => .ok _) key).bind fun _ => .ok _)

theorem lenient_openItem (draft : Draft) (key : Key) : Lenient (draft.openItem key) :=
  .ite (.throw rfl)
    ((lenient_updateAt true (fun _ => lenient_addItem _) _).bind fun _ => .ok _)

theorem lenient_addPair (draft : Draft) (key : Key) (value : Data) :
    Lenient (draft.addPair key value) :=
  .ite (.throw rfl) (.ite (.throw rfl)
    ((lenient_updateAt true (fun _ => lenient_addField _ _) _).bind fun _ => .ok _))

end Draft

/-! Documents -/

/-- Values hold values: what is shown of all readers with less fuel carries over to the next. -/
theorem honest_value_items_inlineFields (fuel : Nat) :
    Honest (Reader.value fuel) ∧ (∀ done, Honest (Reader.items fuel done)) ∧
      ∀ draft, Honest (Reader.inlineFields fuel draft) := by
  induction fuel with
  | zero => exact ⟨.throw rfl, fun _ => .throw rfl, fun _ => .throw rfl⟩
  | succ fuel ih =>
    obtain ⟨hvalue, hitems, hinline⟩ := ih
    refine ⟨?value, fun done => ?items, fun draft => ?inlineFields⟩
    case value =>
      unfold Reader.value
      refine (honest_string? fuel).bind fun text => ?_
      split
      · exact .pure _
      · refine (honest_skip "[").bind fun _ => .ite ((hitems []).bind fun _ => .pure _) ?_
        refine (honest_skip _).bind fun _ => .ite ?_ honest_scalar
        exact honest_blanks.bind fun _ => (honest_skip _).bind fun _ =>
          .ite (.pure _) ((hinline {}).bind fun _ => .pure _)
    case items =>
      unfold Reader.items
      refine (honest_filler fuel).bind fun _ => (honest_skip "]").bind fun _ => .ite (.pure _) ?_
      refine hvalue.bind fun item => (honest_filler fuel).bind fun _ =>
        (honest_skip ",").bind fun _ => .ite (hitems _) ?_
      exact (honest_expect "]" rfl).bind fun _ => .pure _
    case inlineFields =>
      unfold Reader.inlineFields
      refine (honest_key fuel).bind fun name => (honest_expect "=" rfl).bind fun _ =>
        honest_blanks.bind fun _ => hvalue.bind fun item => .ite (.throw rfl) ?_
      refine (Draft.lenient_updateAt false (fun _ => Draft.lenient_addField _ _) _).honest.bind
        fun fields => honest_blanks.bind fun _ => (honest_skip ",").bind fun _ => .ite ?_ ?_
      · exact honest_blanks.bind fun _ => hinline _
      · exact (honest_expect _ rfl).bind fun _ => .pure _

theorem honest_value (fuel : Nat) : Honest (Reader.value fuel) :=
  (honest_value_items_inlineFields fuel).1

theorem honest_statement (fuel : Nat) (draft : Draft) :
    Honest (Reader.statement fuel draft) := by
  refine (honest_skip "[[").bind fun _ => .ite ?item ((honest_skip "[").bind fun _ =>
    .ite ?table ?pair)
  case item =>
    exact (honest_key fuel).bind fun name => (Draft.lenient_openItem _ name).honest.bind fun _ =>
      (honest_expect "]]" rfl).bind fun _ => .pure _
  case table =>
    exact (honest_key fuel).bind fun name => (Draft.lenient_openTable _ name).honest.bind fun _ =>
      (honest_expect "]" rfl).bind fun _ => .pure _
  case pair =>
    exact (honest_key fuel).bind fun name => (honest_expect "=" rfl).bind fun _ =>
      honest_blanks.bind fun _ => (honest_value fuel).bind fun item =>
        (Draft.lenient_addPair draft name item).honest

theorem honest_lines (fuel : Nat) (draft : Draft) : Honest (Reader.lines fuel draft) := by
  induction fuel generalizing draft with
  | zero => exact .throw rfl
  | succ fuel ih =>
    have hnext (next : Draft) : Honest (do
        Reader.blanks
        Reader.comment
        if ← Scanner.atEnd then return next.fields
        else
          Scanner.expect "\n" .invalidStatement
          Reader.lines fuel next : Reader (List (String × Data))) :=
      honest_blanks.bind fun _ => honest_comment.bind fun _ => honest_atEnd.bind fun _ =>
        .ite (.pure _) ((honest_expect "\n" rfl).bind fun _ => ih next)
    exact honest_blanks.bind fun _ => honest_atEnd.bind fun _ => (honest_sees "\n").bind fun _ =>
      (honest_sees "#").bind fun _ =>
        .ite ((Honest.pure draft).bind hnext) ((honest_statement _ draft).bind hnext)

/-! Line ends -/

variable {run : List Char}

/-- A run without line feeds is not touched where line ends are joined. -/
theorem prefix_of_joinLineEnds (hrun : '\n' ∉ run) (h : run <+: joinLineEnds cs) :
    run <+: cs := by
  fun_induction joinLineEnds cs generalizing run with
  | case1 => exact h
  | case2 rest ih =>
    cases run with
    | nil => exact List.nil_prefix
    | cons c more =>
      obtain ⟨rfl, -⟩ := List.cons_prefix_cons.1 h
      exact absurd List.mem_cons_self hrun
  | case3 c rest _ ih =>
    cases run with
    | nil => exact List.nil_prefix
    | cons d more =>
      obtain ⟨rfl, hmore⟩ := List.cons_prefix_cons.1 h
      exact List.cons_prefix_cons.2 ⟨rfl, ih (fun hmem => hrun (.tail d hmem)) hmore⟩

/-- What stands on one line of the joined text stands in the text. -/
theorem infix_of_joinLineEnds (hrun : '\n' ∉ run) (h : run <:+: joinLineEnds cs) :
    run <:+: cs := by
  fun_induction joinLineEnds cs with
  | case1 => exact h
  | case2 rest ih =>
    rcases List.infix_cons_iff.1 h with hprefix | hinfix
    · rw [← joinLineEnds.eq_2 rest] at hprefix
      exact (prefix_of_joinLineEnds hrun hprefix).isInfix
    · exact List.infix_cons (List.infix_cons (ih hinfix))
  | case3 c rest hcr ih =>
    rcases List.infix_cons_iff.1 h with hprefix | hinfix
    · rw [← joinLineEnds.eq_3 c rest hcr] at hprefix
      exact (prefix_of_joinLineEnds hrun hprefix).isInfix
    · exact List.infix_cons (ih hinfix)

theorem HasNumeral.of_joinLineEnds {digits : Nat} (h : HasNumeral (joinLineEnds cs) digits) :
    HasNumeral cs digits := by
  obtain ⟨numeral, hnumeral, hinfix⟩ := h
  have hline : '\n' ∉ numeral := fun hmem => absurd (hnumeral.mem _ hmem) (by decide)
  exact ⟨numeral, hnumeral, infix_of_joinLineEnds hline hinfix⟩

/-- A document that is refused for the length of an integer has a numeral of that length, which is
more than the bound. -/
theorem hasNumeral_of_parse {text : String} {digits : Nat}
    (h : parse text = .error (.oversizedInteger digits)) :
    integerDigitBound < digits ∧ HasNumeral text.toList digits := by
  have hkeeps := honest_lines ((joinLineEnds text.toList).length + 1) {} (joinLineEnds text.toList)
  unfold parse Scanner.read at h
  dsimp only at h
  cases hrun : (Reader.lines ((joinLineEnds text.toList).length + 1) {}).run
      (joinLineEnds text.toList) with
  | ok found =>
    rw [hrun] at h
    cases h
  | error fault =>
    rw [hrun] at h hkeeps
    cases h
    cases hkeeps with
    | oversized hlong hnumeral => exact ⟨hlong, hnumeral.of_joinLineEnds⟩
    | other hfault => cases hfault

end ServiceWiring.Toml
