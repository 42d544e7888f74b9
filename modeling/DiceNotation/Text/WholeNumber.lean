import DiceNotation.Text.Blank
import DiceNotation.Text.Numeral

/-!
# Whole numbers as they are typed

A whole number may be typed with white space around it, a sign, leading zeros, single underscores
between its digits, and a fraction of nothing but zeros. Its digits are the ten ordinary ones. Among the
leading zeros underscores may stand in any number. A minus may follow them as well as precede them, and
then a single underscore may follow the minus. Without leading zeros a number may have `maxDigits`
digits.
-/

namespace DiceNotation.Text

/-- Why a text is no whole number. -/
inductive WholeNumberFault where
  | unreadable
  /-- The text starts with a number that is too long, whatever follows. -/
  | overlong
deriving DecidableEq, Repr

/-- Whether a character is white space around a number: blank, and no information separator. -/
def isPadding (c : Char) : Bool := isBlank c && !(0x1C ≤ c.toNat && c.toNat ≤ 0x1F)

/-- A text without the white space at both ends. -/
def trimPadding (text : List Char) : List Char :=
  ((text.dropWhile isPadding).reverse.dropWhile isPadding).reverse

/-- Whether a character is one of the ten ordinary decimal digits. -/
def isPlainDigit (c : Char) : Bool := '0' ≤ c && c ≤ '9'

/-- The number of digits with which a text starts, the first no zero; a minus may stand in front. -/
def leadingLength (text : List Char) : Nat :=
  let digits :=
    match text with
    | '-' :: rest => rest
    | _ => text
  if digits.head? = some '0' then 0 else (digits.takeWhile isPlainDigit).length

/-- A text without its leading zeros and the underscores among them. Where no number follows them but
the end or a point, the last of these characters stays. -/
def dropLeadingZeros (text : List Char) : List Char :=
  if text.head? = some '0' then
    let zeros := text.takeWhile fun c => c = '0' || c = '_'
    let rest := text.drop zeros.length
    if rest.isEmpty || rest.head? = some '.' then text.drop (zeros.length - 1) else rest
  else text

/-- What stands before a fraction of nothing but zeros, or all of a text without a point. -/
def beforeZeroFraction? (text : List Char) : Option (List Char) :=
  match text.dropWhile (· != '.') with
  | [] => some text
  | _ :: fraction =>
    if !fraction.isEmpty && fraction.all (· == '0') then some (text.takeWhile (· != '.')) else none

/-- Ordinary digits with single underscores between them, the underscores removed. -/
def ungroupDigits? : List Char → Option (List Char)
  | [] => none
  | [c] => if isPlainDigit c then some [c] else none
  | c :: '_' :: rest => if isPlainDigit c then (ungroupDigits? rest).map (c :: ·) else none
  | c :: rest => if isPlainDigit c then (ungroupDigits? rest).map (c :: ·) else none

/-- The digits of a number without leading zeros; zero itself has one digit. -/
def bareDigits? (text : List Char) : Option (List Char) := do
  let digits ← ungroupDigits? (← beforeZeroFraction? text)
  if digits.head? = some '0' && digits.length ≠ 1 then none else some digits

/-- The number that bare digits stand for, unless they are too many. -/
def magnitude? (text : List Char) : Option Int := do
  let digits ← bareDigits? text
  if maxDigits < digits.length then none else some (digitsValue digits)

/-- The number that follows a minus after leading zeros. -/
def afterInnerMinus? : List Char → Option Int
  | '_' :: rest => (magnitude? rest).map (-·)
  | text => (magnitude? text).map (-·)

/-- The number that a text without white space around it stands for. -/
def trimmedNumber? (text : List Char) : Option Int :=
  let unsigned (text : List Char) : Option Int :=
    match dropLeadingZeros text with
    | '-' :: rest => if text.head? = some '0' then afterInnerMinus? rest else none
    | digits => magnitude? digits
  match text with
  | '-' :: rest => (magnitude? (dropLeadingZeros rest)).map (-·)
  | '+' :: rest => unsigned rest
  | _ => unsigned text

/-- Reads a whole number as it is typed. -/
def readWhole (text : String) : Except WholeNumberFault Int :=
  if maxDigits < leadingLength text.toList then .error .overlong
  else
    match trimmedNumber? (trimPadding text.toList) with
    | some n => .ok n
    | none => .error .unreadable

end DiceNotation.Text
