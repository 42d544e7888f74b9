import DiceNotation.Text.CaseTable

/-!
# Lowercase text

Full lowercase mapping. All characters but two are mapped one by one. The capital I with a dot becomes
two characters, and a capital sigma takes its final form `ς` at the end of a word: when the nearest
character before it that is not passed over has case, and the nearest one after it has none.
-/

namespace DiceNotation.Text

/-- Whether a run maps this code point. -/
def CaseRun.covers (run : CaseRun) (code : Nat) : Bool :=
  run.first ≤ code && code ≤ run.last && (code - run.first) % run.step == 0

/-- The simple lowercase mapping of a code point. -/
def lowerCode (code : Nat) : Nat :=
  match caseRuns.find? (·.covers code) with
  | some run => run.target + (code - run.first)
  | none => code

/-- The lowercase form of a character that stands alone. -/
def lowerChar (c : Char) : List Char :=
  if c = 'İ' then ['i', '\u0307'] else [Char.ofNat (lowerCode c.toNat)]

/-- Whether a character is passed over when looking for one with case. -/
def isCaseIgnorable (c : Char) : Bool := caseIgnorableRanges.covers c.toNat

/-- Whether a character has case. -/
def isCased (c : Char) : Bool := casedRanges.covers c.toNat

/-- Whether the first character that is not passed over has case. -/
def startsCased (text : List Char) : Bool :=
  match text.dropWhile isCaseIgnorable with
  | c :: _ => isCased c
  | [] => false

/-- The lowercase form of `text`, where `afterCased` tells whether a word with case comes before it. -/
def lowerFrom (afterCased : Bool) : List Char → List Char
  | [] => []
  | c :: rest =>
    let form :=
      if c = 'Σ' then [if afterCased && !startsCased rest then 'ς' else 'σ'] else lowerChar c
    form ++ lowerFrom (if isCaseIgnorable c then afterCased else isCased c) rest

/-- The lowercase form of a text. -/
def lowercase (text : String) : String := String.ofList (lowerFrom false text.toList)

end DiceNotation.Text
