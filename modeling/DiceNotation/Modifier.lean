import DiceNotation.Explosion

/-!
# Modifiers

What can be done with the dice of a pool once they are rolled. Rerolls, doublings and explosions pick
dice by the face they show; keeps and drops pick a number of the highest or lowest dice, and their
result is in order, the picked end first.
-/

namespace DiceNotation

/-- The kinds of modifier. -/
inductive Modifier where
  | reroll
  | twice
  | explode
  | keepHighest
  | keepLowest
  | dropHighest
  | dropLowest
deriving DecidableEq, Repr

namespace Modifier

/-- Every kind of modifier. -/
def all : List Modifier :=
  [reroll, twice, explode, keepHighest, keepLowest, dropHighest, dropLowest]

/-- How a modifier is written. -/
def token : Modifier → String
  | reroll => "r"
  | twice => "t"
  | explode => "!"
  | keepHighest => "kh"
  | keepLowest => "kl"
  | dropHighest => "dh"
  | dropLowest => "dl"

/-- The modifier that a token stands for. -/
def ofToken? (token : String) : Option Modifier := all.find? (·.token == token)

/-- Whether a modifier picks dice by face; the others pick a number of dice. -/
def picksFace : Modifier → Bool
  | reroll | twice | explode => true
  | _ => false

/-- The argument of a modifier that is written without one. A reroll is of the lowest face, doublings
and explosions are of the highest; keeps and drops pick one die, or one less than there are where that
is less. Any other token counts as a keep. -/
def defaultArgument (token : String) (count lowest highest : Int) : Int :=
  if token = reroll.token then lowest
  else if token = twice.token || token = explode.token then highest
  else min 1 (count - 1)

end Modifier

/-- The dice from the highest to the lowest. -/
def descending (rolls : List Int) : List Int := rolls.mergeSort fun a b => b ≤ a

/-- The dice from the lowest to the highest. -/
def ascending (rolls : List Int) : List Int := rolls.mergeSort fun a b => a ≤ b

/-- The `n` highest dice; none where `n` is negative. -/
def keepHighest (n : Int) (rolls : List Int) : List Int := (descending rolls).take n.toNat

/-- The `n` lowest dice; none where `n` is negative. -/
def keepLowest (n : Int) (rolls : List Int) : List Int := (ascending rolls).take n.toNat

/-- All but the `n` highest dice. -/
def dropHighest (n : Int) (rolls : List Int) : List Int := (descending rolls).drop n.toNat

/-- All but the `n` lowest dice. -/
def dropLowest (n : Int) (rolls : List Int) : List Int := (ascending rolls).drop n.toNat

/-- Every die that shows `face` twice, the others once. -/
def countTwice (face : Int) (rolls : List Int) : List Int :=
  rolls.flatMap fun value => if value = face then [value, value] else [value]

/-- Rolls the dice that show `face` again, each one once and in order. -/
def rerollOnce (face : Int) (again : Roll Int) (rolls : List Int) : Roll (List Int) :=
  Roll.mapEach (fun value => if value = face then again else .done value) rolls

namespace Modifier

/-- What a modifier with its argument makes of the dice of a pool. `again` rolls one more die of the
pool, and explosions may make the pool grow to `limit` dice. -/
def apply (m : Modifier) (argument limit : Int) (again : Roll Int) (rolls : List Int) :
    Roll (List Int) :=
  match m with
  | reroll => rerollOnce argument again rolls
  | twice => .done (countTwice argument rolls)
  | explode => DiceNotation.explode argument limit again rolls
  | keepHighest => .done (DiceNotation.keepHighest argument rolls)
  | keepLowest => .done (DiceNotation.keepLowest argument rolls)
  | dropHighest => .done (DiceNotation.dropHighest argument rolls)
  | dropLowest => .done (DiceNotation.dropLowest argument rolls)

end Modifier

/-- What the modifier with the given token makes of the dice of a pool; without a token they stay as
they are. -/
def modify (token : Option String) (argument limit : Int) (again : Roll Int) (rolls : List Int) :
    Roll (List Int) :=
  match token with
  | none => .done rolls
  | some token =>
    match Modifier.ofToken? token with
    | some m => m.apply argument limit again rolls
    | none => .stop (.unknownModifier token)

end DiceNotation
