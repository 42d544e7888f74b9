import DiceNotation.Limits.Reading
import DiceNotation.Note
import DiceNotation.Toml.Document

/-!
# Loading limits

A settings document holds the limits in its table `dice`. Where there is no document, or nothing that
counts stands under that key, the standard limits hold.
-/

namespace DiceNotation

/-- What a path leads to. -/
inductive File where
  | missing
  | directory
  /-- The system refuses to look the path up. -/
  | unreachable
  | document (text : String)

/-- Why no limits can be loaded. -/
inductive LoadError where
  | directory
  | unreachable
  | malformed
  | overlongNumeral (numeral : Text.OverlongNumeral)
  /-- Under the key stands something that counts and is no table. -/
  | notATable
  | limits (errors : List EntryError)

/-- The entries of a document; a missing one has none. -/
def File.entries : File → Except LoadError (List (String × Value))
  | missing => .ok []
  | directory => .error .directory
  | unreachable => .error .unreachable
  | document text =>
    match Toml.read text with
    | .ok entries => .ok entries
    | .error .malformed => .error .malformed
    | .error (.overlong numeral) => .error (.overlongNumeral numeral)

variable [Validator]

/-- The limits of a settings document; `none` where it sets none. -/
def limitsOfEntries? (entries : List (String × Value)) : Except LoadError (Option Limits) :=
  match entries.lookup "dice" with
  | none => .ok none
  | some v =>
    if v.isBare then .ok none
    else
      match v with
      | .table fields =>
        match Limits.ofEntries fields with
        | .ok limits => .ok (some limits)
        | .error errors => .error (.limits errors)
      | _ => .error .notATable

/-- The limits that the document at a path sets, the standard ones where it sets none. -/
def loadLimits (path : String) (file : File) : Except LoadError Limits × List Note :=
  match file.entries.bind limitsOfEntries? with
  | .ok (some limits) => (.ok limits, [])
  | .ok none => (.ok Limits.standard, [.noTable path])
  | .error e => (.error e, [])

end DiceNotation
