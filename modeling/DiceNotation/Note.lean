import DiceNotation.Settings.Value

/-!
# Notes

What is noted of loading limits, compiling and rolling, beside the results. Only a stopped explosion is
a warning.
-/

namespace DiceNotation

/-- A note. -/
inductive Note where
  /-- The settings at a path set no limits. -/
  | noTable (path : String)
  | tooLong (length : Nat)
  | invalidChunks (expression : String) (chunks : List String)
  | compiled (expression : String) (chunks : Nat)
  | explosionStopped (face : Int) (size : Nat) (limit : Int)
deriving DecidableEq, Repr

namespace Note

/-- Whether a note is a warning. -/
def isWarning : Note → Bool
  | explosionStopped _ _ _ => true
  | _ => false

/-- The part of the library that a note comes from. -/
def origin : Note → String
  | noTable _ => "dicecompile.config"
  | tooLong _ | invalidChunks _ _ | compiled _ _ => "dicecompile.compiler"
  | explosionStopped _ _ _ => "dicecompile.modifiers"

/-- The text of a note. -/
def message : Note → String
  | noTable path => s!"No [dice] table in {path}, using default limits"
  | tooLong length => s!"Rejected expression of length {length}"
  | invalidChunks expression chunks => s!"Invalid chunks in {expression}: {Text.quotedList chunks}"
  | compiled expression chunks => s!"Compiled {Text.quoted expression} into {chunks} chunk(s)"
  | explosionStopped face size limit =>
    s!"Explosion on {face} stopped at {size} dice (limit {limit})"

/-- A note on one line, with its level and origin. -/
def line (note : Note) : String :=
  (if note.isWarning then "WARNING " else "DEBUG ") ++ note.origin ++ ": " ++ note.message

end Note

end DiceNotation
