import DiceNotation.Modifier
import DiceNotation.Text.Digit

/-!
# Chunks

The grammar of chunks, as trees and the text they are written as. A chunk is a constant or a pool, with
a sign in front or none. A pool has a number of dice, which may be left out, a kind of die, and at most
one modifier. Only the modifiers that pick a face take a sign in their argument. Digits may be those of
any script.
-/

namespace DiceNotation

/-- A sign or none. -/
inductive Sign where
  | unsigned
  | plus
  | minus
deriving DecidableEq, Repr

/-- The kind of die: with numbered faces, a fudge die, or a die with a hundred faces. -/
inductive Faces where
  | number (digits : List Char)
  | fudge
  | percent
deriving DecidableEq, Repr

/-- A modifier with its argument, which has no digits where it is left out. -/
structure ModifierText where
  modifier : Modifier
  sign : Sign := .unsigned
  digits : List Char := []
deriving DecidableEq, Repr

/-- A pool; `count` has no digits where it is left out. -/
structure PoolText where
  sign : Sign
  count : List Char
  faces : Faces
  modifier : Option ModifierText
deriving DecidableEq, Repr

/-- A chunk. -/
inductive Chunk where
  | constant (sign : Sign) (digits : List Char)
  | pool (pool : PoolText)
deriving DecidableEq, Repr

/-! ## Written form -/

/-- A sign as it is written. -/
def Sign.write : Sign → List Char
  | unsigned => []
  | plus => ['+']
  | minus => ['-']

/-- A kind of die as it is written. -/
def Faces.write : Faces → List Char
  | number digits => digits
  | fudge => ['f']
  | percent => ['%']

/-- The argument of a modifier as it is written. -/
def ModifierText.argument (m : ModifierText) : List Char := m.sign.write ++ m.digits

/-- A modifier as it is written. -/
def ModifierText.write (m : ModifierText) : List Char := m.modifier.token.toList ++ m.argument

/-- A pool as it is written. -/
def PoolText.write (p : PoolText) : List Char :=
  p.sign.write ++ p.count ++ 'd' :: p.faces.write ++ (p.modifier.elim [] ModifierText.write)

/-- A chunk as it is written. -/
def Chunk.write : Chunk → List Char
  | constant sign digits => sign.write ++ digits
  | pool p => p.write

/-! ## Well-formed trees -/

/-- Whether all characters are digits. -/
def AreDigits (text : List Char) : Prop := ∀ c ∈ text, Text.isDigit c = true

/-- A number of faces has digits. -/
def Faces.WellFormed : Faces → Prop
  | number digits => digits ≠ [] ∧ AreDigits digits
  | _ => True

/-- A signed argument has digits and belongs to a modifier that picks a face. -/
def ModifierText.WellFormed (m : ModifierText) : Prop :=
  AreDigits m.digits ∧ (m.sign ≠ .unsigned → m.modifier.picksFace = true ∧ m.digits ≠ [])

/-- A pool whose parts are well-formed. -/
def PoolText.WellFormed (p : PoolText) : Prop :=
  AreDigits p.count ∧ p.faces.WellFormed ∧ ∀ m, p.modifier = some m → m.WellFormed

/-- A constant with digits, or a well-formed pool. -/
def Chunk.WellFormed : Chunk → Prop
  | constant _ digits => digits ≠ [] ∧ AreDigits digits
  | pool p => p.WellFormed

end DiceNotation
