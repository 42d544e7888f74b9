import DiceNotation.Toml.Reading

/-!
# Quoted text of a document

Text comes in four forms: on one line or on several, with escapes between double quotes or literal
between single ones. On several lines the quotes are tripled, a line end straight after the opening
ones is left out, and one or two quotes straight before the closing ones belong to the text.
-/

namespace DiceNotation.Toml

/-- The character with the code point that hexadecimal digits give, unless they are no digits or the
code point is no character. -/
def readCodePoint (digits : List Char) : Except Fault Char := do
  let values := digits.mapM hexValue?
  match values with
  | none => .error .malformed
  | some values =>
    let code := values.foldl (fun n d => 16 * n + d) 0
    if code.isValidChar then .ok (Char.ofNat code) else .error .malformed

/-- The character that a letter stands for after a backslash. -/
def escaped? : Char → Option Char
  | 'b' => some '\x08'
  | 't' => some '\t'
  | 'n' => some '\n'
  | 'f' => some '\x0c'
  | 'r' => some '\r'
  | '"' => some '"'
  | '\\' => some '\\'
  | _ => none

/-- Puts a character in front of what a reader read. -/
def consRead (c : Char) (reading : Reading (List Char)) : Reading (List Char) :=
  reading.map fun (text, rest) => (c :: text, rest)

/-- The character of an escape whose backslash has been read, and what is left. -/
def readEscape : List Char → Reading Char
  | 'u' :: a :: b :: c :: d :: rest => (readCodePoint [a, b, c, d]).map (·, rest)
  | 'U' :: a :: b :: c :: d :: e :: f :: g :: h :: rest =>
    (readCodePoint [a, b, c, d, e, f, g, h]).map (·, rest)
  | c :: rest =>
    match escaped? c with
    | some e => .ok (e, rest)
    | none => .error .malformed
  | [] => .error .malformed

/-- An escape takes at least one character. -/
theorem length_readEscape {input rest : List Char} {c : Char} (h : readEscape input = .ok (c, rest)) :
    rest.length < input.length := by
  unfold readEscape at h
  split at h
  · cases hc : readCodePoint _ <;> rw [hc] at h <;> simp [Except.map] at h
    simp [← h.2]; omega
  · cases hc : readCodePoint _ <;> rw [hc] at h <;> simp [Except.map] at h
    simp [← h.2]; omega
  · split at h <;> simp at h
    simp [← h.2]
  · simp at h

/-- Text with escapes on one line, after its opening quote. -/
def readBasic : List Char → Reading (List Char)
  | [] => .error .malformed
  | '"' :: rest => .ok ([], rest)
  | '\\' :: rest =>
    match _h : readEscape rest with
    | .ok (c, after) => consRead c (readBasic after)
    | .error fault => .error fault
  | c :: rest => if isControl c then .error .malformed else consRead c (readBasic rest)
termination_by input => input.length
decreasing_by
  · have := length_readEscape _h
    simp; omega
  · simp

/-- Literal text on one line, after its opening quote. -/
def readLiteral : List Char → Reading (List Char)
  | [] => .error .malformed
  | '\'' :: rest => .ok ([], rest)
  | c :: rest => if isControl c then .error .malformed else consRead c (readLiteral rest)

/-- Text after a backslash that ends a line: white space and line ends are left out. -/
def joinLines (rest : List Char) : List Char := rest.dropWhile fun c => isSpace c || c == '\n'

theorem length_joinLines (rest : List Char) : (joinLines rest).length ≤ rest.length :=
  (List.dropWhile_suffix _).length_le

/-- Text with escapes on several lines, after its opening quotes and without the quotes that may
follow the closing ones. -/
def readBasicLines : List Char → Reading (List Char)
  | [] => .error .malformed
  | '"' :: '"' :: '"' :: rest => .ok ([], rest)
  | '\\' :: '\n' :: rest => readBasicLines (joinLines rest)
  | '\\' :: rest =>
    if rest.head?.any isSpace then
      match _h : skipSpace rest with
      | '\n' :: after => readBasicLines (joinLines after)
      | _ => .error .malformed
    else
      match _h : readEscape rest with
      | .ok (c, after) => consRead c (readBasicLines after)
      | .error fault => .error fault
  | c :: rest =>
    if isControl c && c != '\n' then .error .malformed else consRead c (readBasicLines rest)
termination_by input => input.length
decreasing_by
  · have := length_joinLines rest
    simp; omega
  · have := length_joinLines after
    have := (List.dropWhile_suffix (l := rest) isSpace).length_le
    rw [skipSpace] at _h
    rw [_h] at this
    simp at *; omega
  · have := length_readEscape _h
    simp; omega
  · simp

/-- Literal text on several lines, after its opening quotes and without the quotes that may follow the
closing ones. -/
def readLiteralLines : List Char → Reading (List Char)
  | [] => .error .malformed
  | '\'' :: '\'' :: '\'' :: rest => .ok ([], rest)
  | c :: rest =>
    if isControl c && c != '\n' then .error .malformed else consRead c (readLiteralLines rest)

/-- Adds up to two quotes that stand straight after the closing ones. -/
def takeExtraQuotes (quote : Char) (reading : Reading (List Char)) : Reading (List Char) :=
  reading.map fun (text, rest) =>
    match rest with
    | a :: b :: rest' =>
      if a = quote then
        if b = quote then (text ++ [quote, quote], rest') else (text ++ [quote], b :: rest')
      else (text, rest)
    | [a] => if a = quote then (text ++ [quote], []) else (text, rest)
    | [] => (text, rest)

/-- The input without a line end in front. -/
def dropLineEnd : List Char → List Char
  | '\n' :: rest => rest
  | input => input

/-- Text in any of the four forms, `none` where no quote stands in front. -/
def readText? : List Char → Option (Reading (List Char))
  | '"' :: '"' :: '"' :: rest => some (takeExtraQuotes '"' (readBasicLines (dropLineEnd rest)))
  | '"' :: rest => some (readBasic rest)
  | '\'' :: '\'' :: '\'' :: rest => some (takeExtraQuotes '\'' (readLiteralLines (dropLineEnd rest)))
  | '\'' :: rest => some (readLiteral rest)
  | _ => none

end DiceNotation.Toml
