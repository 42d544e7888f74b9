import DiceNotation.Settings.Moment
import DiceNotation.Settings.Value
import DiceNotation.Toml.Reading

/-!
# Numbers, dates and times of a document

Each reader gives `none` where nothing of its kind stands in front.
-/

namespace DiceNotation.Toml

/-! ## Dates and times -/

/-- A number of exactly `width` decimal digits within bounds. -/
def readField? (width low high : Nat) (input : List Char) : Option (Nat × List Char) :=
  let digits := input.take width
  let value := Text.digitsValue digits
  if digits.length = width && digits.all isDecimal && low ≤ value && value ≤ high then
    some (value, input.drop width)
  else none

/-- The input after a character that has to stand in front. -/
def skip? (c : Char) : List Char → Option (List Char)
  | d :: rest => if c = d then some rest else none
  | [] => none

/-- A fraction of a second in microseconds; digits past the sixth are left out. -/
def readFraction : List Char → Nat × List Char
  | '.' :: c :: rest =>
    if isDecimal c then
      let digits := c :: rest.takeWhile isDecimal
      let kept := (digits ++ List.replicate 6 '0').take 6
      (Text.digitsValue kept, rest.dropWhile isDecimal)
    else (0, '.' :: c :: rest)
  | input => (0, input)

/-- A time of day. -/
def readClock? (input : List Char) : Option (Clock × List Char) := do
  let (hour, rest) ← readField? 2 0 23 input
  let (minute, rest) ← readField? 2 0 59 (← skip? ':' rest)
  let (second, rest) ← readField? 2 0 59 (← skip? ':' rest)
  let (microsecond, rest) := readFraction rest
  return (⟨hour, minute, second, microsecond⟩, rest)

/-- A distance from universal time, in minutes. -/
def readOffset? : List Char → Option (Int × List Char)
  | 'Z' :: rest | 'z' :: rest => some (0, rest)
  | sign :: rest => do
    let factor ← if sign = '+' then some 1 else if sign = '-' then some (-1) else none
    let (hour, rest) ← readField? 2 0 23 rest
    let (minute, rest) ← readField? 2 0 59 (← skip? ':' rest)
    return (factor * (60 * hour + minute), rest)
  | [] => none

/-- A day whose month is at most twelve and whose day is at most thirty-one. -/
def readDay? (input : List Char) : Option (Day × List Char) := do
  let (year, rest) ← readField? 4 0 9999 input
  let (month, rest) ← readField? 2 1 12 (← skip? '-' rest)
  let (day, rest) ← readField? 2 1 31 (← skip? '-' rest)
  return (⟨year, month, day⟩, rest)

/-- The time of day that may follow a day after a separator. -/
def readClockAfterDay? : List Char → Option (Clock × List Char)
  | c :: rest => if c = 'T' || c = 't' || c = ' ' then readClock? rest else none
  | [] => none

/-- A date or time. A day that is not in the calendar is a fault. -/
def readMoment? (input : List Char) : Option (Reading Moment) :=
  match readDay? input with
  | some (day, rest) =>
    let read : Moment × List Char :=
      match readClockAfterDay? rest with
      | none => (.day day, rest)
      | some (clock, rest) =>
        match readOffset? rest with
        | some (offset, rest) => (.both day clock (some offset), rest)
        | none => (.both day clock none, rest)
    some (if day.isReal then .ok read else .error .malformed)
  | none => (readClock? input).map fun (clock, rest) => .ok (.clock clock, rest)

/-! ## Numbers -/

/-- The longest row of digits in front, single underscores allowed between them, and what is left.
`afterDigit` tells whether the row has started. -/
def spanDigitsFrom (isDigit : Char → Bool) (afterDigit : Bool) : List Char → List Char × List Char
  | [] => ([], [])
  | c :: rest =>
    if isDigit c then
      let (digits, left) := spanDigitsFrom isDigit true rest
      (c :: digits, left)
    else if c = '_' && afterDigit && rest.head?.any isDigit then spanDigitsFrom isDigit false rest
    else ([], c :: rest)

/-- The longest row of digits in front. -/
def spanDigits (isDigit : Char → Bool) (input : List Char) : List Char × List Char :=
  spanDigitsFrom isDigit false input

/-- A whole number in base two, eight or sixteen. -/
def readBased? : List Char → Option (Value × List Char)
  | '0' :: letter :: rest => do
    let base ←
      if letter = 'x' then some 16 else if letter = 'o' then some 8
      else if letter = 'b' then some 2 else none
    let isDigit (c : Char) : Bool := (hexValue? c).any (· < base)
    let (digits, left) := spanDigits isDigit rest
    if digits.isEmpty then none
    else
      let value := digits.foldl (fun n c => base * n + (hexValue? c).getD 0) 0
      return (.integer value, left)
  | _ => none

/-- The sign in front of a number, whether it is negative. -/
def readSign : List Char → Bool × List Char
  | '-' :: rest => (true, rest)
  | '+' :: rest => (false, rest)
  | input => (false, input)

/-- The digits of a whole number: no zero in front of another digit. -/
def readWhole? : List Char → Option (List Char × List Char)
  | '0' :: rest => some (['0'], rest)
  | input =>
    let (digits, left) := spanDigits isDecimal input
    if digits.isEmpty then none else some (digits, left)

/-- The digits after a decimal point; none where no point with a digit stands in front. -/
def readFractionDigits : List Char → List Char × List Char
  | '.' :: rest =>
    let (digits, left) := spanDigits isDecimal rest
    if digits.isEmpty then ([], '.' :: rest) else (digits, left)
  | input => ([], input)

/-- The exponent of a number, if one stands in front. -/
def readExponent? : List Char → Option (Int × List Char)
  | c :: rest =>
    if c = 'e' || c = 'E' then
      let (negative, rest) := readSign rest
      let (digits, left) := spanDigits isDecimal rest
      if digits.isEmpty then none
      else
        let size : Int := Text.digitsValue digits
        some (if negative then -size else size, left)
    else none
  | [] => none

/-- A number in base ten. One without fraction and exponent is a whole number. -/
def readDecimal? (input : List Char) : Option (Reading Value) := do
  let (negative, rest) := readSign input
  let (whole, rest) ← readWhole? rest
  let (fraction, rest) := readFractionDigits rest
  match readExponent? rest, fraction.isEmpty with
  | none, true =>
    return (match Text.readNumeral whole with
      | .ok size => .ok (.integer (if negative then -(size : Int) else size), rest)
      | .error numeral => .error (.overlong numeral))
  | exponent?, _ =>
    let (exponent, rest) := exponent?.getD (0, rest)
    let digits := Text.digitsValue (whole ++ fraction)
    return .ok (.real (Binary64.ofDecimal negative digits (exponent - fraction.length)), rest)

/-- A number without digits: infinity or not a number. -/
def readSpecial? (input : List Char) : Option (Value × List Char) :=
  let (negative, rest) := readSign input
  match strip? ['i', 'n', 'f'] rest with
  | some left => some (.real (.infinite negative), left)
  | none => (strip? ['n', 'a', 'n'] rest).map fun left => (.real .notANumber, left)

/-- A number of any kind. -/
def readNumber? (input : List Char) : Option (Reading Value) :=
  match readBased? input with
  | some read => some (.ok read)
  | none =>
    match readDecimal? input with
    | some read => some read
    | none => (readSpecial? input).map .ok

end DiceNotation.Toml
