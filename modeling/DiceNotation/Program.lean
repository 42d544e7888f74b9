import DiceNotation.Chunk.Reader
import DiceNotation.Expression
import DiceNotation.Limits
import DiceNotation.Settings.Value
import DiceNotation.Term

/-!
# Programs

What an expression compiles to: its tidied text, its chunks, and a term for each chunk. The checks of an
expression come in a fixed order, first those of its length, of the number of its chunks and of their
form, then those of each chunk in turn. An expression is given as a settings value; one that is no text
is read as its literal.
-/

namespace DiceNotation

/-- Why an expression cannot be compiled. -/
inductive CompileError where
  | tooLong (length limit : Nat)
  | tooManyChunks (count limit : Nat)
  /-- The chunks that are none, and the quoted expression that holds them. -/
  | invalidChunks (expression : String) (chunks : List String)
  | chunk (error : ChunkError)
deriving DecidableEq, Repr

namespace CompileError

/-- What is said of an expression that cannot be compiled. -/
def message : CompileError → String
  | tooLong length limit => s!"Expression is too long: {length} > {limit}"
  | tooManyChunks count limit => s!"Expression contains too many chunks: {count} > {limit}"
  | invalidChunks expression chunks =>
    s!"{expression} contains invalid or unsupported parts: " ++ ", ".intercalate chunks
  | chunk error => error.message

/-- Whether the expression is refused for what it asks for. The other errors are of reading numbers and
of chunks that were never checked. -/
def isRefusal : CompileError → Bool
  | chunk (.notAPool _) | chunk (.overlong _) => false
  | _ => true

end CompileError

/-! ## Terms of chunks -/

/-- The number of faces of a kind of die and the offset of its values. -/
def Faces.resolve : Faces → Except ChunkError (Nat × Int)
  | fudge => .ok (3, -2)
  | percent => .ok (100, 0)
  | number digits => do
    let faces ← readCount digits
    return (faces, 0)

/-- The argument of a modifier on a pool with the given number of dice, from `lowest` to `highest`. -/
def ModifierText.resolve (m : ModifierText) (count lowest highest : Int) : Except ChunkError Int :=
  if m.digits.isEmpty then
    .ok (Modifier.defaultArgument m.modifier.token count lowest highest)
  else do
    let size ← readCount m.digits
    return if m.sign == .minus then -size else size

/-- Compiles a pool. -/
def Pool.ofText (limits : Limits) (chunk : String) : Except ChunkError Pool := do
  let reading ← PoolReading.ofText chunk
  if limits.maxDice < reading.count then
    throw (.tooManyDice reading.count limits.maxDice)
  let (faces, offset) ← reading.faces.resolve
  if limits.maxFaces < faces then
    throw (.tooManyFaces faces limits.maxFaces)
  if faces < 1 then
    throw (.noFaces chunk)
  let argument ←
    match reading.modifier with
    | none => .ok 0
    | some m => m.resolve reading.count (1 + offset) (faces + offset)
  return {
    count := reading.count
    faces := faces
    offset := offset
    negative := reading.negative
    modifier := reading.modifier.map (·.modifier.token)
    argument := argument
    maxDice := limits.maxDice }

/-- Compiles a chunk. -/
def Term.ofText (limits : Limits) (chunk : String) : Except ChunkError Term :=
  match Chunk.ofText? chunk with
  | some (.constant sign digits) => do
    let size ← readCount digits
    return .constant (if sign == .minus then -size else size)
  | _ => do
    let pool ← Pool.ofText limits chunk
    return .pool pool

/-! ## Expressions -/

/-- A compiled expression. -/
structure Program where
  expression : String
  chunks : List String
  terms : List Term
deriving DecidableEq, Repr

/-- The chunks of a tidied expression, if its length, their number and their form are allowed. `given`
is the expression as it was given. -/
def allowedChunks (limits : Limits) (given : Value) (tidied : String) : Except CompileError (List String) :=
  if limits.maxLength < tidied.length then
    .error (.tooLong tidied.length limits.maxLength)
  else
    let chunks := Expression.cut tidied
    if limits.maxChunks < chunks.length then
      .error (.tooManyChunks chunks.length limits.maxChunks)
    else if (invalidChunks chunks).isEmpty then .ok chunks
    else .error (.invalidChunks given.literal (invalidChunks chunks))

/-- Compiles an expression. -/
def Program.ofExpression (limits : Limits) (given : Value) : Except CompileError Program := do
  let tidied := Expression.tidy given.plain
  let chunks ← allowedChunks limits given tidied
  let terms ← chunks.mapM fun chunk => (Term.ofText limits chunk).mapError CompileError.chunk
  return ⟨tidied, chunks, terms⟩

end DiceNotation
