import Mathlib.Data.List.TakeDrop
import ServiceWiring.Toml.Lexeme

/-!
Readers of TOML text never go back, and an integer that they refuse for its length stands in the
text that they were given. Both properties carry over from the parts of a reader to the whole, so
that a reader is honest because it is put together from honest ones.
-/

namespace ServiceWiring.Toml

open Text

variable {α β : Type} {cs rest input : List Char}

/-- The characters are decimal digits, this many of them, and underscores. -/
structure IsNumeral (numeral : List Char) (digits : Nat) : Prop where
  mem : ∀ c ∈ numeral, c.isDigit = true ∨ c = '_'
  count : numeral.countP Char.isDigit = digits

namespace IsNumeral

variable {numeral : List Char} {digits : Nat}

theorem nil : IsNumeral [] 0 := ⟨by simp, rfl⟩

theorem digit {c : Char} (hc : c.isDigit = true) (h : IsNumeral numeral digits) :
    IsNumeral (c :: numeral) (digits + 1) where
  mem := List.forall_mem_cons.2 ⟨.inl hc, h.mem⟩
  count := by rw [List.countP_cons_of_pos hc, h.count]

theorem underscore (h : IsNumeral numeral digits) : IsNumeral ('_' :: numeral) digits where
  mem := List.forall_mem_cons.2 ⟨.inr rfl, h.mem⟩
  count := by rw [List.countP_cons_of_neg (by decide), h.count]

theorem le_length (h : IsNumeral numeral digits) : digits ≤ numeral.length :=
  h.count ▸ List.countP_le_length

end IsNumeral

def HasNumeral (cs : List Char) (digits : Nat) : Prop :=
  ∃ numeral, IsNumeral numeral digits ∧ numeral <:+: cs

theorem HasNumeral.of_suffix {digits : Nat} (h : HasNumeral rest digits) (hsuffix : rest <:+ cs) :
    HasNumeral cs digits := by
  obtain ⟨numeral, hnumeral, hinfix⟩ := h
  exact ⟨numeral, hnumeral, hinfix.trans hsuffix.isInfix⟩

theorem HasNumeral.le_length {digits : Nat} (h : HasNumeral cs digits) : digits ≤ cs.length := by
  obtain ⟨numeral, hnumeral, hinfix⟩ := h
  exact Nat.le_trans hnumeral.le_length hinfix.length_le

def Fault.isOversized : Fault → Bool
  | .oversizedInteger _ => true
  | _ => false

/-- What a reader makes of a text: it leaves the end of it, and an integer that it refuses for its
length stands in it. -/
inductive KeepsTo (cs : List Char) : Except Fault (α × List Char) → Prop
  | ok {value : α} {rest : List Char} : rest <:+ cs → KeepsTo cs (.ok (value, rest))
  | oversized {digits : Nat} : integerDigitBound < digits → HasNumeral cs digits →
      KeepsTo cs (.error (.oversizedInteger digits))
  | other {fault : Fault} : fault.isOversized = false → KeepsTo cs (.error fault)

theorem KeepsTo.of_suffix {outcome : Except Fault (α × List Char)} (h : KeepsTo rest outcome)
    (hsuffix : rest <:+ cs) : KeepsTo cs outcome := by
  cases h with
  | ok hrest => exact .ok (hrest.trans hsuffix)
  | oversized hlong hnumeral => exact .oversized hlong (hnumeral.of_suffix hsuffix)
  | other hfault => exact .other hfault

/-- A reader may look at the whole text and say what is left. -/
theorem keepsTo_get {next : List Char → Reader α} (h : KeepsTo cs ((next cs).run cs)) :
    KeepsTo cs ((do next (← get) : Reader α).run cs) := h

theorem keepsTo_set {outcome : Except Fault α}
    (h : KeepsTo cs (outcome.map fun value => (value, rest))) :
    KeepsTo cs ((do set rest; outcome : Reader α).run cs) := by
  cases outcome with
  | ok value => exact h
  | error fault => exact h

def Honest (reader : Reader α) : Prop := ∀ cs, KeepsTo cs (reader.run cs)

namespace Honest

theorem pure (value : α) : Honest (Pure.pure value : Reader α) := fun _ => .ok List.suffix_rfl

theorem throw {fault : Fault} (hfault : fault.isOversized = false) :
    Honest (MonadExcept.throw fault : Reader α) := fun _ => .other hfault

/-- Honest readers may follow each other. -/
theorem bind {reader : Reader α} {next : α → Reader β} (hreader : Honest reader)
    (hnext : ∀ value, Honest (next value)) : Honest (reader >>= next) := by
  intro cs
  rw [StateT.run_bind]
  have hfirst := hreader cs
  cases hrun : reader.run cs with
  | error fault =>
    rw [hrun] at hfirst
    cases hfirst with
    | oversized hlong hnumeral => exact .oversized hlong hnumeral
    | other hfault => exact .other hfault
  | ok result =>
    rw [hrun] at hfirst
    cases hfirst with
    | @ok value rest hrest => exact (hnext value rest).of_suffix hrest

theorem ite {c : Prop} [Decidable c] {first second : Reader α} (hfirst : Honest first)
    (hsecond : Honest second) : Honest (if c then first else second) := by
  split
  · exact hfirst
  · exact hsecond

theorem dite {c : Prop} [Decidable c] {first : c → Reader α} {second : ¬ c → Reader α}
    (hfirst : ∀ h, Honest (first h)) (hsecond : ∀ h, Honest (second h)) :
    Honest (if h : c then first h else second h) := by
  split
  · exact hfirst _
  · exact hsecond _

end Honest

/-! Scanners -/

theorem honest_get : Honest (get : Reader (List Char)) := fun _ => .ok List.suffix_rfl

theorem honest_drop (count : Nat) : Honest (modify (List.drop count) : Reader Unit) :=
  fun cs => .ok (List.drop_suffix count cs)

theorem honest_atEnd : Honest Scanner.atEnd := fun _ => .ok List.suffix_rfl

theorem honest_next? : Honest Scanner.next? := by
  intro cs
  cases cs with
  | nil => exact .ok List.suffix_rfl
  | cons c rest => exact .ok (List.suffix_cons c rest)

theorem honest_takeWhile (p : Char → Bool) : Honest (Scanner.takeWhile p) := by
  intro cs
  have hrun : (Scanner.takeWhile p : Reader (List Char)).run cs = .ok (cs.span p) := rfl
  rw [hrun, List.span_eq_takeWhile_dropWhile]
  exact .ok (List.dropWhile_suffix p)

theorem honest_skipWhile (p : Char → Bool) : Honest (Scanner.skipWhile p) :=
  fun _ => .ok (List.dropWhile_suffix p)

theorem honest_sees (word : String) : Honest (Scanner.sees word) := fun _ => .ok List.suffix_rfl

theorem honest_skip (word : String) : Honest (Scanner.skip word) :=
  (honest_sees word).bind fun _ =>
    .ite ((honest_drop word.length).bind fun _ => .pure true) (.pure false)

theorem honest_expect (word : String) {cause : Fault} (hcause : cause.isOversized = false) :
    Honest (Scanner.expect word cause) :=
  (honest_skip word).bind fun _ => .ite (.pure ()) (.throw hcause)

theorem keepsTo_go (mark : List Char) {cause : Fault} (hcause : cause.isOversized = false)
    (before : List Char) (hcs : cs <:+ input) :
    KeepsTo input ((Scanner.takeUntil.go cause mark before cs).run input) := by
  induction cs generalizing before with
  | nil =>
    unfold Scanner.takeUntil.go
    split
    · exact .ok List.nil_suffix
    · exact .other hcause
  | cons c rest ih =>
    unfold Scanner.takeUntil.go
    split
    · exact .ok ((List.drop_suffix mark.length (c :: rest)).trans hcs)
    · exact ih (c :: before) ((List.suffix_cons c rest).trans hcs)

theorem honest_takeUntil (word : String) {cause : Fault} (hcause : cause.isOversized = false) :
    Honest (Scanner.takeUntil word cause) :=
  fun _ => keepsTo_go word.toList hcause [] List.suffix_rfl

/-! Strings and keys -/

theorem honest_blanks : Honest Reader.blanks := honest_skipWhile isBlank

theorem honest_comment : Honest Reader.comment :=
  (honest_skip "#").bind fun _ =>
    .ite ((honest_takeWhile _).bind fun _ => .ite (.throw rfl) (.pure ())) (.pure ())

theorem honest_filler (fuel : Nat) : Honest (Reader.filler fuel) := by
  induction fuel with
  | zero => exact .pure ()
  | succ fuel ih =>
    exact (honest_skipWhile _).bind fun _ => (honest_sees "#").bind fun _ =>
      .ite (honest_comment.bind fun _ => ih) (.pure ())

theorem honest_escapedCode (count : Nat) : Honest (Reader.escapedCode count) :=
  honest_get.bind fun _ => .ite
    ((honest_drop count).bind fun _ => .dite (fun _ => .pure _) fun _ => .throw rfl) (.throw rfl)

theorem honest_escapedCharacter : Honest Reader.escapedCharacter := by
  refine honest_next?.bind fun c => ?_
  split
  case h_8 => exact honest_escapedCode 4
  case h_9 => exact honest_escapedCode 8
  case h_10 => exact .throw rfl
  all_goals exact .pure _

theorem honest_basicRest (fuel : Nat) (done : List Char) :
    Honest (Reader.basicRest fuel done) := by
  induction fuel generalizing done with
  | zero => exact .throw rfl
  | succ fuel ih =>
    refine honest_next?.bind fun c => ?_
    split
    · exact .throw rfl
    · exact .pure _
    · exact honest_escapedCharacter.bind fun c => ih (c :: done)
    · next c _ _ => exact .ite (.throw rfl) (ih (c :: done))

theorem honest_literalRest : Honest Reader.literalRest :=
  (honest_takeUntil "'" rfl).bind fun _ => .ite (.throw rfl) (.pure _)

theorem honest_extraQuotes (quote : String) : Honest (Reader.extraQuotes quote) :=
  (honest_skip quote).bind fun _ =>
    .ite ((honest_skip quote).bind fun _ => .ite (.pure _) (.pure _)) (.pure _)

theorem honest_lineJoint : Honest Reader.lineJoint :=
  honest_blanks.bind fun _ => honest_atEnd.bind fun _ =>
    .ite (.pure ()) ((honest_expect "\n" rfl).bind fun _ => honest_skipWhile _)

theorem honest_longBasicRest (fuel : Nat) (done : List Char) :
    Honest (Reader.longBasicRest fuel done) := by
  induction fuel generalizing done with
  | zero => exact .throw rfl
  | succ fuel ih =>
    refine (honest_skip "\"\"\"").bind fun _ => .ite ?_ (honest_next?.bind fun c => ?_)
    · exact (honest_extraQuotes "\"").bind fun _ => .pure _
    · split
      · exact .throw rfl
      · exact (honest_sees " ").bind fun _ => (honest_sees "\t").bind fun _ =>
          (honest_sees "\n").bind fun _ => .ite (honest_lineJoint.bind fun _ => ih done)
            (honest_escapedCharacter.bind fun c => ih (c :: done))
      · next c _ => exact .ite (.throw rfl) (ih (c :: done))

theorem honest_longLiteralRest : Honest Reader.longLiteralRest :=
  (honest_takeUntil "'''" rfl).bind fun _ =>
    .ite (.throw rfl) ((honest_extraQuotes "'").bind fun _ => .pure _)

theorem honest_string? (fuel : Nat) : Honest (Reader.string? fuel) := by
  refine (honest_skip _).bind fun _ => .ite ?_ ((honest_skip _).bind fun _ => .ite ?_
    ((honest_skip _).bind fun _ => .ite ?_ ((honest_skip _).bind fun _ => .ite ?_ (.pure none))))
  · exact (honest_skip _).bind fun _ => (honest_longBasicRest fuel []).bind fun _ => .pure _
  · exact (honest_basicRest fuel []).bind fun _ => .pure _
  · exact (honest_skip _).bind fun _ => honest_longLiteralRest.bind fun _ => .pure _
  · exact honest_literalRest.bind fun _ => .pure _

theorem honest_keyPart (fuel : Nat) : Honest (Reader.keyPart fuel) :=
  (honest_skip _).bind fun _ => .ite (honest_basicRest fuel [])
    ((honest_skip _).bind fun _ => .ite honest_literalRest
      ((honest_takeWhile _).bind fun _ => .ite (.throw rfl) (.pure _)))

theorem honest_key (fuel : Nat) : Honest (Reader.key fuel) := by
  induction fuel with
  | zero => exact .throw rfl
  | succ fuel ih =>
    exact honest_blanks.bind fun _ => (honest_keyPart fuel).bind fun _ =>
      honest_blanks.bind fun _ => (honest_skip ".").bind fun _ =>
        .ite (ih.bind fun _ => .pure _) (.pure _)

end ServiceWiring.Toml
