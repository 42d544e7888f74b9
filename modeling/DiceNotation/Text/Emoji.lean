import DiceNotation.Text.Blank
import DiceNotation.Text.EmojiNames
import DiceNotation.Text.Lowercase

/-!
# Emoji by name

In a text an emoji may be written as its name between two colons. The name may be in capitals, and may
end in a wish for one of the two presentations. A name that no emoji has stays as it is, together with
both its colons.
-/

namespace DiceNotation.Text

/-- The names on a sheet, each with its emoji. -/
def sheetNames (sheet : String) : List (String × String) :=
  (sheet.splitOn ",").flatMap fun entry =>
    match (entry.splitToList Char.isWhitespace).filter (!·.isEmpty) with
    | emoji :: names => names.map (·, emoji)
    | [] => []

/-- The skin tones: how a name asks for one, and the modifier that shows it. -/
def skinTones : List (String × Char) := [
  ("_light_skin_tone", '🏻'), ("_medium-light_skin_tone", '🏼'), ("_medium_skin_tone", '🏽'),
  ("_medium-dark_skin_tone", '🏾'), ("_dark_skin_tone", '🏿')]

/-- An emoji in a skin tone: the modifier stands after its first character, in place of a wish for a
presentation. -/
def inTone (tone : Char) (emoji : String) : String :=
  match emoji.toList with
  | person :: '\uFE0F' :: rest => String.ofList (person :: tone :: rest)
  | person :: rest => String.ofList (person :: tone :: rest)
  | [] => emoji

/-- All names and their emoji. -/
def emojiNames : List (String × String) :=
  let people := sheetNames skinSheet
  sheetNames flagSheet ++ sheetNames pictureSheet ++ people ++
    people.flatMap fun (name, emoji) =>
      skinTones.map fun (wish, tone) => (name ++ wish, inTone tone emoji)

/-- The wishes for a presentation, and the selectors that ask for it. -/
def presentations : List (List Char × Char) :=
  [("-emoji".toList, '\uFE0F'), ("-text".toList, '\uFE0E')]

/-- The emoji for what stands between two colons. -/
def emojiFor? (code : List Char) : Option (List Char) :=
  let named (name : List Char) : Option (List Char) :=
    (emojiNames.lookup (lowercase (String.ofList name))).map String.toList
  match presentations.find? fun (wish, _) => wish.isSuffixOf code with
  | some (wish, selector) => (named (code.take (code.length - wish.length))).map (· ++ [selector])
  | none => named code

/-- A text with its emoji in place of their names. A colon that no other follows in the same word is no
beginning of a name. -/
def showEmoji (text : List Char) : List Char :=
  match text with
  | [] => []
  | ':' :: rest =>
    let code := rest.takeWhile fun c => c != ':' && !isBlank c
    match h : rest.drop code.length with
    | ':' :: after =>
      have : after.length < rest.length := by
        have := congrArg List.length h
        simp at this
        omega
      (emojiFor? code).getD (':' :: code ++ [':']) ++ showEmoji after
    | _ => ':' :: showEmoji rest
  | c :: rest => c :: showEmoji rest
termination_by text.length

end DiceNotation.Text
