import DiceNotation.Number.Binary64
import DiceNotation.Settings.Moment
import DiceNotation.Text.Numeral
import DiceNotation.Text.Quoted

/-!
# Settings values

The values that settings may have, and the two ways to show one. The literal of a value is unambiguous:
text is quoted in it. The plain form of a text is the text itself, and of any other value its literal.
-/

namespace DiceNotation

/-- A settings value. -/
inductive Value where
  | nothing
  | boolean (b : Bool)
  | integer (n : Int)
  | real (x : Binary64)
  | text (s : String)
  | moment (m : Moment)
  | list (items : List Value)
  | table (entries : List (String × Value))
deriving Inhabited

namespace Value

mutual

/-- The unambiguous form of a value. -/
def literal : Value → String
  | nothing => "None"
  | boolean b => if b then "True" else "False"
  | integer n => toString n
  | real x => x.text
  | text s => Text.quoted s
  | moment m => m.literal
  | list items => "[" ++ ", ".intercalate (literals items) ++ "]"
  | table entries => "\x7b" ++ ", ".intercalate (entryLiterals entries) ++ "\x7d"

/-- The literals of several values. -/
def literals : List Value → List String
  | [] => []
  | v :: rest => v.literal :: literals rest

/-- The literals of the entries of a table. -/
def entryLiterals : List (String × Value) → List String
  | [] => []
  | (key, v) :: rest => (Text.quoted key ++ ": " ++ v.literal) :: entryLiterals rest

end

mutual

/-- Whether no number in a value is too long to be written. -/
def isWritable : Value → Bool
  | integer n => !Text.isOverlong n
  | list items => areWritable items
  | table entries => entriesWritable entries
  | _ => true

/-- Whether all of several values can be written. -/
def areWritable : List Value → Bool
  | [] => true
  | v :: rest => v.isWritable && areWritable rest

/-- Whether all values of a table can be written. -/
def entriesWritable : List (String × Value) → Bool
  | [] => true
  | (_, v) :: rest => v.isWritable && entriesWritable rest

end

/-- A text as it is, any other value as its literal. -/
def plain : Value → String
  | text s => s
  | v => v.literal

/-- The name of the kind of a value. -/
def kind : Value → String
  | nothing => "NoneType"
  | boolean _ => "bool"
  | integer _ => "int"
  | real _ => "float"
  | text _ => "str"
  | moment m => m.kind
  | list _ => "list"
  | table _ => "dict"

/-- Whether a value counts as absent: nothing, false, zero, and whatever is empty. -/
def isBare : Value → Bool
  | nothing => true
  | boolean b => !b
  | integer n => n == 0
  | real x => x.isZero
  | text s => s.isEmpty
  | moment _ => false
  | list items => items.isEmpty
  | table entries => entries.isEmpty

end Value

end DiceNotation
