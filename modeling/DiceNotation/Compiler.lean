import DiceNotation.Note
import DiceNotation.Program

/-!
# Compilers

A compiler keeps what it compiled: evaluators by tidied expression, terms by chunk. An expression or a
chunk that is found again is not looked at any more, so that the very same object comes back. What is
kept stays until the compiler is cleared, also when the limits change; a chunk that was compiled stays
kept when a later chunk of its expression fails.
-/

namespace DiceNotation

/-- What tells objects apart: the compiler that made one, and how many it had made before. -/
structure Stamp where
  owner : Nat
  serial : Nat
deriving DecidableEq, Repr

/-- An object with its stamp. -/
structure Stamped (α : Type) where
  stamp : Stamp
  value : α
deriving DecidableEq, Repr

/-- A compiled expression, ready to be rolled any number of times. -/
structure Evaluator where
  expression : String
  chunks : List String
  terms : List (Stamped Term)
deriving DecidableEq, Repr

namespace Evaluator

/-- What the evaluator was compiled to, without stamps. -/
def program (e : Evaluator) : Program := ⟨e.expression, e.chunks, e.terms.map (·.value)⟩

/-- Rolls all terms in order. -/
def roll (e : Evaluator) : Roll (List Part) := rollTerms (e.terms.map (·.value))

/-- How an evaluator is shown. -/
def shown (e : Evaluator) : String := s!"Evaluator({Text.quoted e.expression})"

end Evaluator

/-! ## Shelves -/

/-- What is kept under keys. -/
abbrev Shelf (α : Type) := List (String × α)

namespace Shelf

variable {α : Type}

/-- What is kept under a key. -/
def find? (shelf : Shelf α) (key : String) : Option α := shelf.lookup key

/-- The shelf with one more entry. -/
def add (shelf : Shelf α) (key : String) (value : α) : Shelf α := (key, value) :: shelf

/-- The keys, the last one that was added first. -/
def keys (shelf : Shelf α) : List String := shelf.map (·.1)

end Shelf

/-! ## Compiling -/

/-- A compiler with what it keeps. `made` is the number of objects it has made. -/
structure Compiler where
  owner : Nat
  limits : Limits := .standard
  expressions : Shelf (Stamped Evaluator) := []
  chunks : Shelf (Stamped Term) := []
  made : Nat := 0

/-- What is noted of an expression that is refused as a whole. -/
def CompileError.notes : CompileError → List Note
  | tooLong length _ => [.tooLong length]
  | invalidChunks expression chunks => [.invalidChunks expression chunks]
  | _ => []

namespace Compiler

/-- The compiler without anything kept. -/
def clear (c : Compiler) : Compiler := { c with expressions := [], chunks := [] }

/-- The compiler under other limits, with all that it keeps. -/
def setLimits (c : Compiler) (limits : Limits) : Compiler := { c with limits := limits }

/-- Compiles a chunk, or finds it. -/
def compileChunk (c : Compiler) (chunk : String) : Except CompileError (Stamped Term) × Compiler :=
  match c.chunks.find? chunk with
  | some term => (.ok term, c)
  | none =>
    match Term.ofText c.limits chunk with
    | .error e => (.error (.chunk e), c)
    | .ok term =>
      let made : Stamped Term := ⟨⟨c.owner, c.made⟩, term⟩
      (.ok made, { c with chunks := c.chunks.add chunk made, made := c.made + 1 })

/-- Compiles chunks in order, up to the first one that fails. -/
def compileChunks (c : Compiler) :
    List String → Except CompileError (List (Stamped Term)) × Compiler
  | [] => (.ok [], c)
  | chunk :: rest =>
    match c.compileChunk chunk with
    | (.error e, c) => (.error e, c)
    | (.ok term, c) =>
      match c.compileChunks rest with
      | (.error e, c) => (.error e, c)
      | (.ok terms, c) => (.ok (term :: terms), c)

/-- Compiles an expression whose chunks are known, and keeps its evaluator. -/
def build (c : Compiler) (tidied : String) (chunks : List String) :
    Except CompileError (Stamped Evaluator) × Compiler :=
  match c.compileChunks chunks with
  | (.error e, c) => (.error e, c)
  | (.ok terms, c) =>
    let made : Stamped Evaluator := ⟨⟨c.owner, c.made⟩, ⟨tidied, chunks, terms⟩⟩
    (.ok made, { c with expressions := c.expressions.add tidied made, made := c.made + 1 })

/-- Compiles an expression, or finds it; and what is noted of it. -/
def compile (c : Compiler) (given : Value) :
    Except CompileError (Stamped Evaluator) × Compiler × List Note :=
  let tidied := Expression.tidy given.plain
  match c.expressions.find? tidied with
  | some evaluator => (.ok evaluator, c, [])
  | none =>
    match allowedChunks c.limits given tidied with
    | .error e => (.error e, c, e.notes)
    | .ok chunks =>
      match c.build tidied chunks with
      | (.error e, c) => (.error e, c, e.notes)
      | (.ok evaluator, c) => (.ok evaluator, c, [.compiled tidied chunks.length])

end Compiler

end DiceNotation
