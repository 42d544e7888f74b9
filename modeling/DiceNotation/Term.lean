import DiceNotation.Modifier

/-!
# Terms

A compiled chunk is a constant or a pool of dice. Rolling it gives a part: a constant its number, a pool
the list of its dice after the modifier, negated last where the chunk has a minus.
-/

namespace DiceNotation

/-- A pool of dice. `offset` moves every die: the three faces of a fudge die are one to three moved by
minus two. `maxDice` is the size to which explosions may make the pool grow. -/
structure Pool where
  count : Int
  faces : Int
  offset : Int := 0
  negative : Bool := false
  modifier : Option String := none
  argument : Int := 0
  maxDice : Int := 100
deriving DecidableEq, Repr

/-- A compiled chunk. -/
inductive Term where
  | constant (value : Int)
  | pool (pool : Pool)
deriving DecidableEq, Repr

/-- The result of rolling a term. -/
inductive Part where
  | scalar (value : Int)
  | dice (values : List Int)
deriving DecidableEq, Repr

namespace Pool

/-- The lowest value of a die. -/
def lowest (p : Pool) : Int := 1 + p.offset

/-- The highest value of a die. -/
def highest (p : Pool) : Int := p.faces + p.offset

/-- One die of the pool. -/
def die (p : Pool) : Roll Int := Roll.die p.faces p.offset

/-- The dice of the pool before the sign is applied. -/
def rollUnsigned (p : Pool) : Roll (List Int) := do
  let base ← p.die.times p.count.toNat
  modify p.modifier p.argument p.maxDice p.die base

/-- The dice of the pool. -/
def roll (p : Pool) : Roll (List Int) := do
  let rolls ← p.rollUnsigned
  return if p.negative then rolls.map (-·) else rolls

theorem roll_eq (p : Pool) :
    p.roll = p.rollUnsigned.bind fun rolls => .done (if p.negative then rolls.map (-·) else rolls) := rfl

end Pool

/-- The part that a term gives. -/
def Term.roll : Term → Roll Part
  | constant value => .done (.scalar value)
  | pool p => do
    let values ← p.roll
    return .dice values

/-- The parts that terms give, rolled in order. -/
def rollTerms (terms : List Term) : Roll (List Part) := Roll.mapEach Term.roll terms

namespace Part

/-- The numbers of a part. -/
def values : Part → List Int
  | scalar value => [value]
  | dice values => values

/-- The dice of a part; a constant has none. -/
def rolls : Part → List Int
  | scalar _ => []
  | dice values => values

end Part

/-- The numbers of all parts, in order. -/
def flatten (parts : List Part) : List Int := parts.flatMap Part.values

/-- The sum of all parts. -/
def total (parts : List Part) : Int := (flatten parts).foldr (· + ·) 0

end DiceNotation
