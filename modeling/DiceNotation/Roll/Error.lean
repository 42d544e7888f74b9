import DiceNotation.Note
import DiceNotation.Roll

/-!
# What is said of rolls that stop
-/

namespace DiceNotation.RollError

/-- What is said of a roll that stops. -/
def message : RollError → String
  | limitExceeded _ size pending limit =>
    s!"Explosion exceeded roll limit: {size + pending} > {limit}"
  | unwritable _ _ _ _ => Text.unwritableMessage
  | unknownModifier token => Text.quoted token
  | source failure => failure.message

/-- What is noted of a roll that stops. A note with a number that cannot be written is lost. -/
def notes : RollError → List Note
  | limitExceeded face size _ limit => [.explosionStopped face size limit]
  | _ => []

end DiceNotation.RollError
