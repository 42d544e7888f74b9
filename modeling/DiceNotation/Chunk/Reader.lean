import DiceNotation.Chunk
import DiceNotation.Text.Lowercase
import DiceNotation.Text.Numeral
import DiceNotation.Text.Quoted

/-!
# Reading chunks

A chunk is read from left to right without looking ahead more than one character. A single line end
after it is passed over. Where a pool is asked for, its letters may also be capitals.
-/

namespace DiceNotation

/-- The sign in front and what comes after it. -/
def Sign.read : List Char → Sign × List Char
  | '+' :: rest => (.plus, rest)
  | '-' :: rest => (.minus, rest)
  | text => (.unsigned, text)

/-- The kind of die in front and what comes after it. -/
def Faces.read? : List Char → Option (Faces × List Char)
  | 'f' :: rest => some (.fudge, rest)
  | '%' :: rest => some (.percent, rest)
  | text =>
    let digits := text.takeWhile Text.isDigit
    if digits.isEmpty then none else some (.number digits, text.dropWhile Text.isDigit)

/-- The token of a modifier in front and what comes after it. -/
def Modifier.read? : List Char → Option (Modifier × List Char)
  | 'r' :: rest => some (reroll, rest)
  | 't' :: rest => some (twice, rest)
  | '!' :: rest => some (explode, rest)
  | 'k' :: 'h' :: rest => some (keepHighest, rest)
  | 'k' :: 'l' :: rest => some (keepLowest, rest)
  | 'd' :: 'h' :: rest => some (dropHighest, rest)
  | 'd' :: 'l' :: rest => some (dropLowest, rest)
  | _ => none

/-- A modifier that makes up all of a text. -/
def ModifierText.read? (text : List Char) : Option ModifierText := do
  let (modifier, rest) ← Modifier.read? text
  let (sign, digits) := if modifier.picksFace then Sign.read rest else (.unsigned, rest)
  if digits.all Text.isDigit && (sign == .unsigned || !digits.isEmpty) then
    some ⟨modifier, sign, digits⟩
  else none

/-- The modifier, or none, that makes up all of a text. -/
def ModifierText.readRest? (text : List Char) : Option (Option ModifierText) :=
  if text.isEmpty then some none else (ModifierText.read? text).map some

/-- A chunk that makes up all of a text. -/
def Chunk.read? (text : List Char) : Option Chunk := do
  let (sign, rest) := Sign.read text
  let digits := rest.takeWhile Text.isDigit
  match rest.dropWhile Text.isDigit with
  | [] => if digits.isEmpty then none else some (.constant sign digits)
  | 'd' :: rest =>
    let (faces, rest) ← Faces.read? rest
    let modifier ← ModifierText.readRest? rest
    return .pool ⟨sign, digits, faces, modifier⟩
  | _ => none

/-- A text without a line end after it. -/
def withoutLineEnd (text : List Char) : List Char :=
  if text.getLast? = some '\n' then text.dropLast else text

/-- The chunk that a text holds, maybe with a line end after it. -/
def Chunk.ofText? (text : String) : Option Chunk := Chunk.read? (withoutLineEnd text.toList)

/-- Whether a text is a chunk. -/
def isChunk (text : String) : Bool := (Chunk.ofText? text).isSome

/-- Whether a text is a constant. -/
def isConstant (text : String) : Bool :=
  match Chunk.ofText? text with
  | some (.constant _ _) => true
  | _ => false

/-- The texts that are no chunks, in order. -/
def invalidChunks (texts : List String) : List String := texts.filter fun text => !isChunk text

/-! ## Pools -/

/-- Why a chunk cannot be compiled. -/
inductive ChunkError where
  | notAPool (chunk : String)
  | overlong (numeral : Text.OverlongNumeral)
  | tooManyDice (count limit : Nat)
  | tooManyFaces (faces limit : Nat)
  | noFaces (chunk : String)
deriving DecidableEq, Repr

/-- What is said of a chunk that cannot be compiled. -/
def ChunkError.message : ChunkError → String
  | notAPool chunk => s!"Not a dice chunk: {Text.quoted chunk}"
  | overlong numeral => numeral.message
  | tooManyDice count limit => s!"Dice pool is too large: {count} > {limit}"
  | tooManyFaces faces limit => s!"Die has too many faces: {faces} > {limit}"
  | noFaces chunk => s!"Die must have at least one face: {Text.quoted chunk}"

/-- A numeral of a chunk. -/
def readCount (digits : List Char) : Except ChunkError Nat :=
  (Text.readNumeral digits).mapError ChunkError.overlong

/-- What a pool says, with the number of its dice read: one where it is left out. -/
structure PoolReading where
  negative : Bool
  count : Nat
  faces : Faces
  modifier : Option ModifierText
deriving DecidableEq, Repr

/-- Reads a pool in letters of either case. -/
def PoolReading.ofText (chunk : String) : Except ChunkError PoolReading :=
  match Chunk.ofText? (Text.lowercase chunk) with
  | some (.pool p) => do
    let count ← if p.count.isEmpty then .ok 1 else readCount p.count
    return ⟨p.sign == .minus, count, p.faces, p.modifier⟩
  | _ => .error (.notAPool chunk)

end DiceNotation
