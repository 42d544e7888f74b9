import DiceNotation.Settings.Validator
import DiceNotation.Text.WholeNumber

/-!
# A lenient validator

A whole number may also be given as a truth value, as a binary number without fraction that lies strictly
between `-2 ^ 63` and `2 ^ 63`, or as a typed whole number. The report counts the errors and then shows each
one: the key, what is wrong and the value that was given. A long value is shown by its two ends.
-/

namespace DiceNotation.Lenient

/-! ## Numbers -/

/-- Something other than a number. -/
def notInteger : Refusal := ⟨"int_type", "Input should be a valid integer"⟩

/-- A text that is no number. -/
def unreadable : Refusal :=
  ⟨"int_parsing", "Input should be a valid integer, unable to parse string as an integer"⟩

/-- A number that is too large to be read. -/
def overlong : Refusal :=
  ⟨"int_parsing_size", "Unable to parse input string as an integer, exceeded maximum size"⟩

/-- A number with a fraction. -/
def fractional : Refusal :=
  ⟨"int_from_float", "Input should be a valid integer, got a number with a fractional part"⟩

/-- An infinite number, or none. -/
def notFinite : Refusal := ⟨"finite_number", "Input should be a finite number"⟩

/-- A number below the least one. -/
def below (least : Int) : Refusal :=
  ⟨"greater_than_equal", s!"Input should be greater than or equal to {least}"⟩

/-- The whole number that a value stands for. -/
def whole : Value → Except Refusal Int
  | .integer n => .ok n
  | .boolean b => .ok (if b then 1 else 0)
  | .real (.finite negative significand exponent) =>
    match (Binary64.finite negative significand exponent).toInt? with
    | some n => if n.natAbs < Nat.pow 2 63 then .ok n else .error overlong
    | none => .error fractional
  | .real _ => .error notFinite
  | .text s =>
    match Text.readWhole s with
    | .ok n => .ok n
    | .error .unreadable => .error unreadable
    | .error .overlong => .error overlong
  | _ => .error notInteger

/-! ## Tables -/

/-- The number that holds by a rule. -/
def check (rule : NumberRule) : Option Value → Except Refusal Int
  | none => .ok rule.standard
  | some v =>
    match whole v with
    | .ok n => if rule.least ≤ n then .ok n else .error (below rule.least)
    | .error refusal => .error refusal

/-- What is wrong with the value for a rule. -/
def error? (entries : List (String × Value)) (rule : NumberRule) : Option EntryError :=
  match valueUnder? entries rule.key with
  | none => none
  | some v =>
    match check rule (some v) with
    | .ok _ => none
    | .error refusal => some ⟨rule.key, refusal, v⟩

/-- The numbers that hold by rules under their keys. -/
def numbers (entries : List (String × Value)) : List NumberRule → String → Int
  | [], _ => 0
  | rule :: rules, key =>
    if key = rule.key then
      match check rule (valueUnder? entries rule.key) with
      | .ok n => n
      | .error _ => 0
    else numbers entries rules key

/-- Reads a table. -/
def read (rules : List NumberRule) (entries : List (String × Value)) :
    Except (List EntryError) (String → Int) :=
  match rules.filterMap (error? entries) with
  | [] => .ok (numbers entries rules)
  | errors => .error errors

/-! ## Reports -/

/-- The end of a text from the first character that starts at or after a byte. -/
def fromByte (start : Nat) : List Char → List Char
  | [] => []
  | c :: rest => if start = 0 then c :: rest else fromByte (start - c.utf8Size) rest

/-- The characters of a text that start before a byte and, the last one too, end at or before it. -/
def uptoByte (stop : Nat) : List Char → List Char
  | [] => []
  | c :: rest => if c.utf8Size ≤ stop then c :: uptoByte (stop - c.utf8Size) rest else []

/-- A value as reports show it: of more than fifty bytes, the first twenty-five and the last
twenty-four, at whole characters. -/
def shortened (shown : String) : String :=
  let size := shown.utf8ByteSize
  if size ≤ 50 then shown
  else
    String.ofList (uptoByte 25 shown.toList) ++ "..." ++
      String.ofList (fromByte (size - 24) shown.toList)

/-- The value that was refused, as the report shows it. One with a number that is too long to be written is
named by its kind only. -/
def shownValue (v : Value) : String :=
  if v.isWritable then v.literal else s!"<unprintable {v.kind} object>"

/-- The lines of a report on one error. `further` are those that its code calls for. -/
def errorLines (further : String → List String) (e : EntryError) : List String :=
  let shown := shortened (shownValue e.given)
  [e.key,
    s!"  {e.refusal.message} [type={e.refusal.code}, input_value={shown}, input_type={e.given.kind}]"] ++
    further e.refusal.code

/-- The report on what is wrong. -/
def report (further : String → List String) (title : String) (errors : List EntryError) : String :=
  let noun := if errors.length = 1 then "error" else "errors"
  "\n".intercalate
    (s!"{errors.length} validation {noun} for {title}" :: errors.flatMap (errorLines further))

end DiceNotation.Lenient

namespace DiceNotation

/-- The lenient validator. In its reports `further` lines follow each error, by its code. -/
@[reducible]
def Validator.lenient (further : String → List String) : Validator where
  whole := Lenient.whole
  below := Lenient.below
  check := Lenient.check
  read := Lenient.read
  report := Lenient.report further

end DiceNotation
