/-!
# Limits

What may be compiled: the length of a tidied expression, the number of its chunks, the dice of a pool
and the faces of a die.
-/

namespace DiceNotation

/-- The limits under which expressions are compiled. -/
structure Limits where
  maxLength : Nat := 60
  maxChunks : Nat := 10
  maxDice : Nat := 100
  maxFaces : Nat := 1000
deriving DecidableEq, Repr

/-- The limits where none are set. -/
def Limits.standard : Limits := {}

/-- The four limits. -/
inductive LimitField where
  | maxLength
  | maxChunks
  | maxDice
  | maxFaces
deriving DecidableEq, Repr

namespace LimitField

/-- The limits in the order in which they are read and reported. -/
def all : List LimitField := [maxLength, maxChunks, maxDice, maxFaces]

/-- The key of a limit in settings. -/
def key : LimitField → String
  | maxLength => "max_length"
  | maxChunks => "max_chunks"
  | maxDice => "max_dice"
  | maxFaces => "max_faces"

end LimitField

/-- The value of a limit. -/
def Limits.get (limits : Limits) : LimitField → Nat
  | .maxLength => limits.maxLength
  | .maxChunks => limits.maxChunks
  | .maxDice => limits.maxDice
  | .maxFaces => limits.maxFaces

end DiceNotation
