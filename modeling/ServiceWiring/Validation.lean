import ServiceWiring.Data
import ServiceWiring.Diagnostic
import ServiceWiring.Text.Numeral

/-!
Checking data documents against the shape of a value. A check gives the value or everything that
is wrong with the document, in the order of the declared fields; each complaint says where it
arose.
-/

namespace ServiceWiring

inductive Selector where
  | field (name : String)
  | index (position : Nat)
deriving DecidableEq, Repr

inductive Flaw where
  | missing
  | notText
  | notInteger
  | unreadableInteger
  | oversizedInteger
  | fractionalInteger
  | notFinite
  | notListed
  | notRecord
  | notList
  | notPath
  | unknownField
deriving DecidableEq, Repr

def Flaw.label : Flaw → String
  | .missing => "missing"
  | .notText => "string_type"
  | .notInteger => "int_type"
  | .unreadableInteger => "int_parsing"
  | .oversizedInteger => "int_parsing_size"
  | .fractionalInteger => "int_from_float"
  | .notFinite => "finite_number"
  | .notListed => "enum"
  | .notRecord => "model_type"
  | .notList => "tuple_type"
  | .notPath => "path_type"
  | .unknownField => "extra_forbidden"

structure Complaint where
  place : List Selector
  flaw : Flaw
deriving DecidableEq, Repr

/-- A value, or all that is wrong with the document it was read from. -/
abbrev Checked (α : Type) := Except (List Complaint) α

namespace Checked

variable {α : Type}

def flawed (flaw : Flaw) : Checked α := .error [⟨[], flaw⟩]

def complaints : Checked α → List Complaint
  | .ok _ => []
  | .error complaints => complaints

/-- The same check, seen from one level further out. -/
def under (selector : Selector) : Checked α → Checked α
  | .ok value => .ok value
  | .error complaints => .error (complaints.map fun c => { c with place := selector :: c.place })

def required (fields : List (String × Data)) (name : String) (check : Data → Checked α) :
    Checked α :=
  under (.field name) <|
    match Data.field? name fields with
    | none => flawed .missing
    | some value => check value

/-- Checks a field that may be left out, for which `fallback` stands then. -/
def defaulted (fields : List (String × Data)) (name : String) (fallback : α)
    (check : Data → Checked α) : Checked α :=
  match Data.field? name fields with
  | none => .ok fallback
  | some value => under (.field name) (check value)

def nullable (check : Data → Checked α) : Data → Checked (Option α)
  | .null => .ok none
  | value => (check value).map some

def items (check : Data → Checked α) (start : Nat) : List Data → Checked (List α)
  | [] => .ok []
  | item :: rest =>
    match under (.index start) (check item), items check (start + 1) rest with
    | .ok value, .ok values => .ok (value :: values)
    | first, others => .error (first.complaints ++ others.complaints)

def text : Data → Checked String
  | .text value => .ok value
  | _ => flawed .notText

/-- The 63rd power of two. -/
def integerBound : Int := 9223372036854775808

def numeralBound : Nat := 4300

/-- An integer, or something that denotes one. These are the rules assumed of a lax conversion: a
truth value is 0 or 1; a floating-point number has no fraction and is less than `integerBound` in
size; a numeral has at most `numeralBound` characters between the blanks around it, where a sign,
leading zeros and a fraction count as well, it may have single underscores between its digits, so
that `0__1` denotes nothing, and behind its point there are zeros or nothing, so that `1.` is 1. -/
def integer : Data → Checked Int
  | .integer value => .ok value
  | .boolean value => .ok (if value then 1 else 0)
  | .real (.finite negative mantissa exponent) =>
    match Binary64.toInt? (.finite negative mantissa exponent) with
    | none => flawed .fractionalInteger
    | some value =>
      if -integerBound < value && value < integerBound then .ok value else flawed .oversizedInteger
  | .real _ => flawed .notFinite
  | .text value =>
    if numeralBound < (Text.trimSpaces value.toList).length then flawed .oversizedInteger
    else match Text.integerValue? value with
      | some number => .ok number
      | none => flawed .unreadableInteger
  | _ => flawed .notInteger

def labelled (ofLabel? : String → Option α) : Data → Checked α
  | .text value =>
    match ofLabel? value with
    | some found => .ok found
    | none => flawed .notListed
  | _ => flawed .notListed

/-- A location: only the file has to be given, and fields that are not known are passed over. -/
def location : Data → Checked CodeLocation
  | .record fields =>
    let file := required fields "file_path" text
    let line := defaulted fields "line" none (nullable integer)
    let column := defaulted fields "column" none (nullable integer)
    let selectedText := defaulted fields "selected_text" none (nullable text)
    match file, line, column, selectedText with
    | .ok file, .ok line, .ok column, .ok selectedText => .ok ⟨file, line, column, selectedText⟩
    | _, _, _, _ =>
      .error (file.complaints ++ line.complaints ++ column.complaints ++ selectedText.complaints)
  | _ => flawed .notRecord

/-- An issue; its severity is `error` unless another is given. -/
def issue : Data → Checked Issue
  | .record fields =>
    let kind := required fields "kind" (labelled IssueKind.ofLabel?)
    let message := required fields "message" text
    let place := required fields "location" location
    let severity := defaulted fields "severity" .error (labelled Severity.ofLabel?)
    let serviceId := defaulted fields "service_id" none (nullable text)
    match kind, message, place, severity, serviceId with
    | .ok kind, .ok message, .ok place, .ok severity, .ok serviceId =>
      .ok ⟨kind, message, place, severity, serviceId⟩
    | _, _, _, _, _ =>
      .error (kind.complaints ++ message.complaints ++ place.complaints ++ severity.complaints ++
        serviceId.complaints)
  | _ => flawed .notRecord

end Checked

end ServiceWiring
