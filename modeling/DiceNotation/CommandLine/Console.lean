/-!
# Consoles

What a command has to show is handed to a console: texts, parts of which are in a style, and tables. In a text
that is handed over a style is marked by its name in brackets, before the part and after it. How all this looks
in lines is the work of the console, which comes from outside.
-/

namespace DiceNotation.CommandLine

/-- A style. -/
inductive Style where
  | dim
  | bold
  | boldRed
deriving DecidableEq, Repr

/-- The name of a style. -/
def Style.name : Style → String
  | dim => "dim"
  | bold => "bold"
  | boldRed => "bold red"

/-- Whether a character may begin what stands in brackets for a style, or for the end of one. -/
def beginsStyle (c : Char) : Bool := ('a' ≤ c && c ≤ 'z') || c == '#' || c == '/' || c == '@'

/-- A part of a text, in a style or without one. -/
structure Span where
  style : Option Style := none
  text : String
deriving DecidableEq, Repr

/-- A part as it is marked up. -/
def Span.markup (span : Span) : String :=
  match span.style with
  | none => span.text
  | some style => "[" ++ style.name ++ "]" ++ span.text ++ "[/" ++ style.name ++ "]"

/-- A text as it is marked up. -/
def markup (spans : List Span) : String := String.join (spans.map Span.markup)

/-- A text without its styles. -/
def plainText (spans : List Span) : String := String.join (spans.map Span.text)

/-- A column of a table: its header, and whether its cells stand at the right. -/
structure Column where
  header : String
  right : Bool := false
deriving DecidableEq, Repr

/-- A table: its title, its columns and the cells of its rows. -/
structure Table where
  title : String
  columns : List Column
  rows : List (List String)
deriving DecidableEq, Repr

/-- What shows texts and tables. -/
class Console where
  /-- A text so marked up that nothing in it is taken for a mark. -/
  escape : String → String
  /-- The lines that a marked-up text gives. -/
  print : String → List String
  /-- The lines that a table gives. -/
  printTable : Table → List String
  /-- A text does not need more than one line. -/
  Fits : String → Prop
  /-- A table does not need more room than there is. -/
  FitsTable : Table → Prop

end DiceNotation.CommandLine
