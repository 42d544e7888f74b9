import DiceNotation.Toml.Number
import DiceNotation.Toml.Text
import DiceNotation.Toml.Tree

/-!
# Documents

A document is read statement by statement: a header declares a table or starts the next table of a list,
a key with a value writes into the table of the last header. `read` gives the entries of the whole
document.
-/

namespace DiceNotation.Toml

/-! ## Keys -/

/-- Whether a character may stand in a key without quotes. -/
def isBareKeyChar (c : Char) : Bool := c.isAlphanum || c == '-' || c == '_'

/-- One part of a key. -/
def readKeyPart (input : List Char) : Except Fault (String × List Char) :=
  match input with
  | '"' :: rest => (readBasic rest).map fun (text, left) => (String.ofList text, left)
  | '\'' :: rest => (readLiteral rest).map fun (text, left) => (String.ofList text, left)
  | _ =>
    let part := input.takeWhile isBareKeyChar
    if part.isEmpty then .error .malformed
    else .ok (String.ofList part, input.dropWhile isBareKeyChar)

/-- A key of one or more parts with points between them, and the white space after it. `fuel` bounds the
number of parts. -/
def readKeyParts : Nat → List Char → Except Fault (List String × List Char)
  | 0, _ => .error .malformed
  | fuel + 1, input => do
    let (part, rest) ← readKeyPart input
    match skipSpace rest with
    | '.' :: rest =>
      let (parts, left) ← readKeyParts fuel (skipSpace rest)
      return (part :: parts, left)
    | left => return ([part], left)

/-- A key. -/
def readKey (input : List Char) : Except Fault (List String × List Char) := readKeyParts (input.length + 1) input

/-! ## Values -/

mutual

/-- A value. `fuel` bounds the number of values and separators in it. -/
def readValueWith : Nat → List Char → Except Fault (Value × List Char)
  | 0, _ => .error .malformed
  | fuel + 1, input =>
    match readText? input with
    | some reading => reading.map fun (text, rest) => (.text (String.ofList text), rest)
    | none =>
      match input with
      | '[' :: rest => do
        let (items, left) ← readItems fuel (← skipFiller false rest)
        return (.list items, left)
      | '\x7b' :: rest =>
        match skipSpace rest with
        | '\x7d' :: left => .ok (.table [], left)
        | rest => do
          let (entries, left) ← readEntries fuel [] rest
          return (.table (entryValues entries), left)
      | _ =>
        match strip? ['t', 'r', 'u', 'e'] input, strip? ['f', 'a', 'l', 's', 'e'] input with
        | some rest, _ => .ok (.boolean true, rest)
        | none, some rest => .ok (.boolean false, rest)
        | none, none =>
          match readMoment? input with
          | some reading => reading.map fun (m, rest) => (.moment m, rest)
          | none => (readNumber? input).getD (.error .malformed)

/-- The items of a list up to its end, from the first character of an item or the end. -/
def readItems : Nat → List Char → Except Fault (List Value × List Char)
  | 0, _ => .error .malformed
  | fuel + 1, input =>
    match input with
    | ']' :: left => .ok ([], left)
    | _ => do
      let (item, rest) ← readValueWith fuel input
      match ← skipFiller false rest with
      | ']' :: left => return ([item], left)
      | ',' :: rest =>
        let (items, left) ← readItems fuel (← skipFiller false rest)
        return (item :: items, left)
      | _ => .error .malformed

/-- The entries of a table written as a value, up to its end. At least one entry has to follow. -/
def readEntries : Nat → Entries → List Char → Except Fault (Entries × List Char)
  | 0, _, _ => .error .malformed
  | fuel + 1, entries, input => do
    let (key, rest) ← readKey input
    match rest with
    | '=' :: rest =>
      let (v, rest) ← readValueWith fuel (skipSpace rest)
      match entries.write 0 v key with
      | none => .error .malformed
      | some entries =>
        match skipSpace rest with
        | '\x7d' :: left => return (entries, left)
        | ',' :: rest => readEntries fuel entries (skipSpace rest)
        | _ => .error .malformed
    | _ => .error .malformed

end

/-- A value. -/
def readValue (input : List Char) : Except Fault (Value × List Char) := readValueWith (2 * input.length + 2) input

/-! ## Statements -/

/-- A document while it is read: its tables, the path of the last header, and the number of headers. -/
structure Draft where
  entries : Entries := []
  path : List String := []
  headers : Nat := 0

/-- A header up to its closing brackets, and the path in it. -/
def readHeader (closing : List Char) (input : List Char) : Except Fault (List String × List Char) := do
  let (key, rest) ← readKey (skipSpace input)
  match strip? closing rest with
  | some left => return (key, left)
  | none => .error .malformed

/-- The draft after a header whose last part is treated by `change` in its parent. -/
def Draft.enter (draft : Draft) (change : String → Entries → Option Entries) (key : List String) :
    Except Fault Draft :=
  match key.getLast?.bind fun last => Entries.within (change last) key.dropLast draft.entries with
  | some entries => .ok ⟨entries, key, draft.headers + 1⟩
  | none => .error .malformed

/-- A statement at the start of a line and what is left of the line after it. -/
def readStatement (draft : Draft) (input : List Char) : Except Fault (Draft × List Char) :=
  match input with
  | '[' :: '[' :: rest => do
    let (key, left) ← readHeader [']', ']'] rest
    return (← draft.enter Entries.extend key, skipSpace left)
  | '[' :: rest => do
    let (key, left) ← readHeader [']'] rest
    return (← draft.enter Entries.declare key, skipSpace left)
  | '#' :: _ => .ok (draft, input)
  | _ => do
    let (key, rest) ← readKey input
    match rest with
    | '=' :: rest =>
      let (v, left) ← readValue (skipSpace rest)
      match draft.entries.within (Entries.write draft.headers v key) draft.path with
      | some entries => return (⟨entries, draft.path, draft.headers⟩, skipSpace left)
      | none => .error .malformed
    | _ => .error .malformed

/-- All statements of a document. `fuel` bounds their number. -/
def readStatements : Nat → Draft → List Char → Except Fault Draft
  | 0, _, _ => .error .malformed
  | fuel + 1, draft, input =>
    match skipSpace input with
    | [] => .ok draft
    | '\n' :: rest => readStatements fuel draft rest
    | input => do
      let (draft, rest) ← readStatement draft input
      match ← skipComment rest with
      | [] => return draft
      | '\n' :: rest => readStatements fuel draft rest
      | _ => .error .malformed

/-- The characters of a document with every line end as one character. -/
def unifyLineEnds : List Char → List Char
  | '\r' :: '\n' :: rest => '\n' :: unifyLineEnds rest
  | c :: rest => c :: unifyLineEnds rest
  | [] => []

/-- The entries of a document. -/
def read (document : String) : Except Fault (List (String × Value)) :=
  let input := unifyLineEnds document.toList
  (readStatements (input.length + 1) {} input).map fun draft => entryValues draft.entries

end DiceNotation.Toml
