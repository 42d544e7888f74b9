import DiceNotation.CommandLine.Console
import DiceNotation.Text.Emoji

/-!
# Marked-up text on a terminal

A word in brackets that begins like a style is taken for one and does not show. Half of the backslashes straight
before such a word show, and if their number is odd the word shows as well. A backslash straight before another
opening bracket does not show. Emoji are shown in place of their names, which do not reach into or out of
words that are taken for styles. Control characters that would move the cursor are left out.
-/

namespace DiceNotation.CommandLine

/-- What stands between an opening bracket and the next closing one, if it could be taken for a style,
and the text after both. No bracket opens in between. -/
def styleIn? : List Char → Option (List Char × List Char)
  | [] => none
  | c :: rest =>
    let inside := rest.takeWhile fun c => c != ']' && c != '['
    match rest.drop inside.length with
    | ']' :: after => if beginsStyle c then some (c :: inside, after) else none
    | _ => none

theorem length_styleIn {text inside after : List Char} (h : styleIn? text = some (inside, after)) :
    after.length < text.length := by
  cases text with
  | nil => simp [styleIn?] at h
  | cons c rest =>
    simp only [styleIn?] at h
    split at h
    · rename_i tail heq
      split at h
      · obtain ⟨_, rfl⟩ : _ ∧ tail = after := by simpa using h
        have := congrArg List.length heq
        simp at this ⊢
        omega
      · simp at h
    · simp at h

/-- A text with `mark` applied to every word in brackets that could be taken for a style, and to the backslashes
straight before it, and with `plain` applied to what stands between. `before` is what stands in front, the last
character first. -/
def mapStyles (plain : List Char → List Char) (mark : List Char → List Char → List Char) (before : List Char)
    (text : List Char) : List Char :=
  match text with
  | [] => plain before.reverse
  | '[' :: rest =>
    match h : styleIn? rest with
    | some (inside, after) =>
      have := length_styleIn h
      let slashes := before.takeWhile (· == '\\')
      plain (before.drop slashes.length).reverse ++ mark slashes ('[' :: inside ++ [']']) ++
        mapStyles plain mark [] after
    | none => mapStyles plain mark ('[' :: before) rest
  | c :: rest => mapStyles plain mark (c :: before) rest
termination_by text.length

/-! ## Marking -/

/-- A text with a single backslash at its end doubled. -/
def doubleLastBackslash (text : List Char) : List Char :=
  match text.reverse with
  | '\\' :: '\\' :: _ => text
  | '\\' :: _ => text ++ ['\\']
  | _ => text

/-- A text so marked up that no word in it is taken for a style. -/
def escapeStyles (text : List Char) : List Char :=
  doubleLastBackslash <|
    mapStyles id (fun slashes word => slashes ++ slashes ++ ('\\' :: word)) [] text

/-! ## Showing -/

/-- Whether a character would move the cursor: the bell, backspace, vertical tab, form feed and carriage
return. -/
def movesCursor (c : Char) : Bool := [7, 8, 11, 12, 13].contains c.toNat

/-- A text without the backslashes straight before opening brackets. -/
def dropBracketEscapes : List Char → List Char
  | '\\' :: '[' :: rest => '[' :: dropBracketEscapes rest
  | c :: rest => c :: dropBracketEscapes rest
  | [] => []

/-- A text without styles as it is shown. -/
def showPlain (text : List Char) : List Char := Text.showEmoji (dropBracketEscapes text)

/-- What is shown of a word that could be taken for a style, and of the backslashes before it. -/
def showMark (slashes word : List Char) : List Char :=
  slashes.take (slashes.length / 2) ++ if slashes.length % 2 = 0 then [] else showPlain word

/-- What is shown of a marked-up text. -/
def showMarkup (text : List Char) : List Char :=
  (mapStyles showPlain showMark [] text).filter fun c => !movesCursor c

end DiceNotation.CommandLine
