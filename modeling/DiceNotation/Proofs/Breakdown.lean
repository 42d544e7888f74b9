import Mathlib.Algebra.Ring.Int.Defs
import Mathlib.Logic.Function.Defs
import DiceNotation.CommandLine.Run
import DiceNotation.Proofs.Chunk.Reading

/-!
# Breakdowns are unambiguous

A breakdown can be read back. Its reader takes numbers, signed or not, and groups of numbers in brackets,
with a plus or not, with a blank between one and the next. What it finds in the breakdown of a roll are
the parts of the roll. So different rolls have different breakdowns, and taken as a sum a breakdown comes to the
total that stands after it.

The blanks and signs have more than one meaning: a blank stands between parts and after a comma within a
group, a plus may be put in front of a part, and a minus always belongs to a number. The reader settles
this as it goes from left to right, and that it settles it as it was meant rests on what may come after a number: never a
digit.
-/

namespace DiceNotation

/-! ## Written numbers -/

namespace Text

theorem isDigit_of_isDigit {c : Char} (h : c.isDigit = true) : isDigit c = true := by
  have hcode : 48 ≤ c.toNat ∧ c.toNat ≤ 57 := by
    simpa [Char.isDigit, UInt32.le_iff_toNat_le] using h
  refine List.any_eq_true.mpr ⟨0x30, List.mem_cons_self, ?_⟩
  simp only [Bool.and_eq_true, decide_eq_true_eq]
  omega

theorem digitValue?_of_isDigit {c : Char} (h : c.isDigit = true) :
    digitValue? c = some (c.toNat - '0'.toNat) := by
  have hcode : 48 ≤ c.toNat ∧ c.toNat ≤ 57 := by
    simpa [Char.isDigit, UInt32.le_iff_toNat_le] using h
  have hfirst : zeros.find? (fun first => first ≤ c.toNat && c.toNat < first + 10) = some 0x30 := by
    refine List.find?_eq_some_iff_append.mpr ⟨?_, [], zeros.tail, rfl, by simp⟩
    simp only [Bool.and_eq_true, decide_eq_true_eq]
    omega
  rw [digitValue?, hfirst]
  rfl

theorem areDigits_toDigits (n : Nat) : AreDigits (Nat.toDigits 10 n) := by
  intro c hc
  exact isDigit_of_isDigit (Nat.isDigit_of_mem_toDigits (by decide) (by decide) hc)

/-- A number is the value of its digits. -/
theorem digitsValue_toDigits (n : Nat) : digitsValue (Nat.toDigits 10 n) = n := by
  have hsame : digitsValue (Nat.toDigits 10 n) = Nat.ofDigitChars 10 (Nat.toDigits 10 n) 0 := by
    rw [digitsValue, Nat.ofDigitChars_eq_foldl]
    refine List.foldl_ext _ _ _ fun value c hc => ?_
    rw [digitValue?_of_isDigit (Nat.isDigit_of_mem_toDigits (by decide) (by decide) hc)]
    rfl
  rw [hsame, Nat.ofDigitChars_ten_toDigits]

end Text

namespace Breakdown

/-! ## Reading -/

/-- The number in front of a text, with a sign or without one, and the text after it. -/
def readNumber? (text : List Char) : Option (Int × List Char) :=
  let (sign, rest) := Sign.read text
  let digits := rest.takeWhile Text.isDigit
  if digits.isEmpty then none
  else
    let size : Int := Text.digitsValue digits
    some (if sign == .minus then -size else size, rest.dropWhile Text.isDigit)

theorem length_readNumber {text rest : List Char} {n : Int} (h : readNumber? text = some (n, rest)) :
    rest.length < text.length := by
  unfold readNumber? at h
  rcases hsign : Sign.read text with ⟨sign, unsigned⟩
  rw [hsign] at h
  dsimp only at h
  split at h
  · cases h
  · next hdigits =>
    cases h
    have htext := congrArg List.length (Sign.write_append_of_read hsign)
    have hsplit := congrArg List.length
      (List.takeWhile_append_dropWhile (p := Text.isDigit) (l := unsigned))
    have hpos : 0 < (unsigned.takeWhile Text.isDigit).length :=
      List.length_pos_iff.mpr fun hnil => hdigits (List.isEmpty_iff.mpr hnil)
    rw [List.length_append] at htext hsplit
    omega

/-- The numbers of a group that has some, from after its opening bracket on, and the text after the
closing one. -/
def readNumbers? (text : List Char) : Option (List Int × List Char) :=
  match h : readNumber? text with
  | some (n, ']' :: rest) => some ([n], rest)
  | some (n, ',' :: ' ' :: rest) =>
    have := length_readNumber h
    (readNumbers? rest).map fun (numbers, rest) => (n :: numbers, rest)
  | _ => none
termination_by text.length
decreasing_by
  simp only [List.length_cons] at this
  omega

/-- The numbers of a group, from after its opening bracket on, and the text after the closing one. -/
def readGroup? : List Char → Option (List Int × List Char)
  | ']' :: rest => some ([], rest)
  | text => readNumbers? text

/-- The part in front of a text, and the text after it. -/
def readPart? : List Char → Option (Part × List Char)
  | '[' :: rest => (readGroup? rest).map fun (values, rest) => (.dice values, rest)
  | '+' :: '[' :: rest => (readGroup? rest).map fun (values, rest) => (.dice values, rest)
  | text => (readNumber? text).map fun (value, rest) => (.scalar value, rest)

theorem length_readNumbers {text rest : List Char} {numbers : List Int}
    (h : readNumbers? text = some (numbers, rest)) : rest.length < text.length := by
  fun_induction readNumbers? text generalizing numbers rest with
  | case1 text n after hnumber =>
    cases h
    have hlength := length_readNumber hnumber
    simp only [List.length_cons] at hlength
    omega
  | case2 text n after hnumber hlength ih =>
    obtain ⟨⟨others, left⟩, hothers, heq⟩ := Option.map_eq_some_iff.mp h
    cases heq
    have hleft := ih hothers
    simp only [List.length_cons] at hlength
    omega
  | case3 => cases h

theorem length_readGroup {text rest : List Char} {values : List Int}
    (h : readGroup? text = some (values, rest)) : rest.length < text.length := by
  unfold readGroup? at h
  split at h
  · cases h
    exact Nat.lt_succ_self _
  · exact length_readNumbers h

theorem length_readPart {text rest : List Char} {part : Part} (h : readPart? text = some (part, rest)) :
    rest.length < text.length := by
  unfold readPart? at h
  split at h
  · obtain ⟨⟨values, left⟩, hvalues, heq⟩ := Option.map_eq_some_iff.mp h
    cases heq
    have hlength := length_readGroup hvalues
    simp only [List.length_cons]
    omega
  · obtain ⟨⟨values, left⟩, hvalues, heq⟩ := Option.map_eq_some_iff.mp h
    cases heq
    have hlength := length_readGroup hvalues
    simp only [List.length_cons]
    omega
  · obtain ⟨⟨value, left⟩, hvalue, heq⟩ := Option.map_eq_some_iff.mp h
    cases heq
    exact length_readNumber hvalue

/-- The parts of a text that has some. -/
def readParts? (text : List Char) : Option (List Part) :=
  match h : readPart? text with
  | some (part, []) => some [part]
  | some (part, ' ' :: rest) =>
    have := length_readPart h
    (readParts? rest).map (part :: ·)
  | _ => none
termination_by text.length
decreasing_by
  simp only [List.length_cons] at this
  omega

/-- The parts that a breakdown tells of; an empty text tells of none. -/
def read? (text : String) : Option (List Part) :=
  if text = "" then some [] else readParts? text.toList

/-- What a part adds to a sum: a number itself, a group the sum of its numbers. -/
def worth : Part → Int
  | .scalar value => value
  | .dice values => values.sum

/-- What a breakdown comes to, taken as a sum. -/
def value? (text : String) : Option Int := (read? text).map fun parts => (parts.map worth).sum

/-! ## Numbers are read back -/

/-- The sign with which a number is written. -/
def signOf (n : Int) : Sign := if n < 0 then .minus else .unsigned

theorem toList_toString (n : Int) : (toString n).toList = (signOf n).write ++ Nat.toDigits 10 n.natAbs := by
  unfold signOf
  cases n with
  | ofNat n =>
    have hnot : ¬(Int.ofNat n < 0) := by simp
    rw [if_neg hnot]
    exact Nat.toList_repr
  | negSucc n =>
    rw [if_pos (Int.negSucc_lt_zero n)]
    show ("-" ++ (n + 1).repr).toList = _
    rw [String.toList_append, Nat.toList_repr]
    rfl

/-- A row of digits is read as its number, with the sign in front of it. -/
theorem readNumber?_digits (sign : Sign) (n : Nat) {rest : List Char} (hrest : NoDigitAhead rest) :
    readNumber? (sign.write ++ (Nat.toDigits 10 n ++ rest)) =
      some (if sign == .minus then -(n : Int) else n, rest) := by
  have hdigits := Text.areDigits_toDigits n
  have hnoSign : NoSignAhead (Nat.toDigits 10 n ++ rest) := by
    cases hcons : Nat.toDigits 10 n with
    | nil => exact absurd hcons Nat.toDigits_ne_nil
    | cons c tail =>
      rw [hcons] at hdigits
      exact noSignAhead_cons_of_isDigit (tail ++ rest) (hdigits c List.mem_cons_self)
  have hsome : (Nat.toDigits 10 n).isEmpty = false := List.isEmpty_eq_false_iff.mpr Nat.toDigits_ne_nil
  unfold readNumber?
  rw [Sign.read_write_append sign hnoSign]
  dsimp only
  rw [takeWhile_digits hdigits hrest, dropWhile_digits hdigits hrest, hsome, Text.digitsValue_toDigits]
  rfl

theorem readNumber?_toString (n : Int) {rest : List Char} (hrest : NoDigitAhead rest) :
    readNumber? ((toString n).toList ++ rest) = some (n, rest) := by
  rw [toList_toString, List.append_assoc, readNumber?_digits _ _ hrest]
  unfold signOf
  by_cases hn : n < 0
  · rw [if_pos hn]
    have hvalue : -(n.natAbs : Int) = n := by omega
    exact congrArg (fun value => some (value, rest)) hvalue
  · rw [if_neg hn]
    have hvalue : (n.natAbs : Int) = n := by omega
    exact congrArg (fun value => some (value, rest)) hvalue

/-- A plus in front of a number that has no minus does not matter. -/
theorem readNumber?_plus {n : Int} (hn : 0 ≤ n) {rest : List Char} (hrest : NoDigitAhead rest) :
    readNumber? (("+" ++ toString n).toList ++ rest) = some (n, rest) := by
  have hsign : signOf n = .unsigned := if_neg (Int.not_lt.mpr hn)
  have htext : ("+" ++ toString n).toList = Sign.plus.write ++ Nat.toDigits 10 n.natAbs := by
    rw [String.toList_append, toList_toString, hsign]
    rfl
  rw [htext, List.append_assoc, readNumber?_digits _ _ hrest]
  have hvalue : (n.natAbs : Int) = n := by omega
  exact congrArg (fun value => some (value, rest)) hvalue

/-! ## Parts are read back -/

theorem noDigitAhead_closing (rest : List Char) : NoDigitAhead (']' :: rest) :=
  noDigitAhead_cons rest (by decide)

theorem noDigitAhead_comma (rest : List Char) : NoDigitAhead (',' :: rest) :=
  noDigitAhead_cons rest (by decide)

theorem noDigitAhead_blank (rest : List Char) : NoDigitAhead (' ' :: rest) :=
  noDigitAhead_cons rest (by decide)

theorem readNumbers?_of_closing {text rest : List Char} {n : Int}
    (h : readNumber? text = some (n, ']' :: rest)) : readNumbers? text = some ([n], rest) := by
  rw [readNumbers?]
  split
  · next heq =>
    rw [h] at heq
    cases heq
    rfl
  · next heq =>
    rw [h] at heq
    cases heq
  · next hclosing _ => exact absurd h (hclosing n rest)

theorem readNumbers?_of_comma {text rest : List Char} {n : Int}
    (h : readNumber? text = some (n, ',' :: ' ' :: rest)) :
    readNumbers? text = (readNumbers? rest).map fun (numbers, rest) => (n :: numbers, rest) := by
  rw [readNumbers?]
  split
  · next heq =>
    rw [h] at heq
    cases heq
  · next heq =>
    rw [h] at heq
    cases heq
    rfl
  · next _ hcomma => exact absurd h (hcomma n rest)

/-- The numbers of a group are read up to its closing bracket. -/
theorem readNumbers?_written (n : Int) (others : List Int) (rest : List Char) :
    readNumbers? ((", ".intercalate ((n :: others).map toString)).toList ++ ']' :: rest) =
      some (n :: others, rest) := by
  induction others generalizing n with
  | nil =>
    rw [List.map_cons, List.map_nil, String.intercalate_singleton]
    exact readNumbers?_of_closing (readNumber?_toString n (noDigitAhead_closing rest))
  | cons m others ih =>
    have htext : (", ".intercalate ((n :: m :: others).map toString)).toList ++ ']' :: rest =
        (toString n).toList ++
          ',' :: ' ' :: ((", ".intercalate ((m :: others).map toString)).toList ++ ']' :: rest) := by
      rw [List.map_cons, List.map_cons, String.intercalate_cons_cons, String.toList_append,
        String.toList_append, List.append_assoc, List.append_assoc]
      rfl
    rw [htext, readNumbers?_of_comma (readNumber?_toString n (noDigitAhead_comma _)), ih m]
    rfl

theorem readGroup?_written (values : List Int) (rest : List Char) :
    readGroup? ((", ".intercalate (values.map toString)).toList ++ ']' :: rest) = some (values, rest) := by
  cases values with
  | nil => rfl
  | cons n others =>
    have hread := readNumbers?_written n others rest
    unfold readGroup?
    split
    · next heq =>
      -- a group that has numbers does not close at once
      rw [heq, readNumbers?] at hread
      cases hread
    · exact hread

/-- A number that is read is a part, as it is no group. -/
theorem readPart?_of_number {text rest : List Char} {n : Int} (h : readNumber? text = some (n, rest)) :
    readPart? text = some (.scalar n, rest) := by
  unfold readPart?
  split
  · cases h
  · cases h
  · rw [h]
    rfl

/-- **A part is read back**, be it the first or not, if no digit comes after it. -/
theorem readPart?_text (first : Bool) (part : Part) {rest : List Char} (hrest : NoDigitAhead rest) :
    readPart? ((part.text first).toList ++ rest) = some (part, rest) := by
  cases part with
  | scalar value =>
    unfold Part.text
    dsimp only
    split
    · next hplus =>
      have hvalue : 0 ≤ value := (by simpa using hplus : 0 ≤ value ∧ _).1
      exact readPart?_of_number (readNumber?_plus hvalue hrest)
    · exact readPart?_of_number (readNumber?_toString value hrest)
  | dice values =>
    have hgroup := readGroup?_written values rest
    have htext : ("[" ++ ", ".intercalate (values.map toString) ++ "]").toList ++ rest =
        '[' :: ((", ".intercalate (values.map toString)).toList ++ ']' :: rest) := by
      rw [String.toList_append, String.toList_append, List.append_assoc]
      rfl
    unfold Part.text
    cases first with
    | true =>
      show readPart? (("[" ++ ", ".intercalate (values.map toString) ++ "]").toList ++ rest) = _
      rw [htext, readPart?, hgroup]
      rfl
    | false =>
      show readPart? (("+" ++ ("[" ++ ", ".intercalate (values.map toString) ++ "]")).toList ++ rest) = _
      rw [String.toList_append, List.append_assoc, htext]
      show (readGroup? _).map _ = _
      rw [hgroup]
      rfl

/-! ## Breakdowns are read back -/

theorem readParts?_of_end {text : List Char} {part : Part} (h : readPart? text = some (part, [])) :
    readParts? text = some [part] := by
  rw [readParts?]
  split
  · next heq =>
    rw [h] at heq
    cases heq
    rfl
  · next heq =>
    rw [h] at heq
    cases heq
  · next hend _ => exact absurd h (hend part)

theorem readParts?_of_blank {text rest : List Char} {part : Part}
    (h : readPart? text = some (part, ' ' :: rest)) : readParts? text = (readParts? rest).map (part :: ·) := by
  rw [readParts?]
  split
  · next heq =>
    rw [h] at heq
    cases heq
  · next heq =>
    rw [h] at heq
    cases heq
    rfl
  · next _ hblank => exact absurd h (hblank part rest)

/-- No parts can be read where there is nothing. -/
theorem readParts?_nil : readParts? [] = none := by
  rw [readParts?]
  rfl

/-- The parts are read up to the end, whether the first of them is the first of the roll or not. -/
theorem readParts?_written (first : Bool) (part : Part) (parts : List Part) :
    readParts? (" ".intercalate (part.text first :: parts.map (Part.text false))).toList =
      some (part :: parts) := by
  induction parts generalizing first part with
  | nil =>
    have hread := readPart?_text first part noDigitAhead_nil
    rw [List.append_nil] at hread
    rw [List.map_nil, String.intercalate_singleton]
    exact readParts?_of_end hread
  | cons next parts ih =>
    have htext : (" ".intercalate (part.text first :: (next :: parts).map (Part.text false))).toList =
        (part.text first).toList ++
          ' ' :: (" ".intercalate (next.text false :: parts.map (Part.text false))).toList := by
      rw [List.map_cons, String.intercalate_cons_cons, String.toList_append, String.toList_append,
        List.append_assoc]
      rfl
    rw [htext, readParts?_of_blank (readPart?_text first part (noDigitAhead_blank _)), ih]
    rfl

/-- **A breakdown is read back.** -/
theorem read?_breakdown (parts : List Part) : read? (breakdown parts) = some parts := by
  cases parts with
  | nil => rfl
  | cons part parts =>
    have hread := readParts?_written true part parts
    have hne : breakdown (part :: parts) ≠ "" := by
      intro hempty
      change readParts? (breakdown (part :: parts)).toList = _ at hread
      rw [hempty, String.toList_empty, readParts?_nil] at hread
      cases hread
    rw [read?, if_neg hne]
    exact hread

/-- What the parts add to a sum is what their numbers come to. -/
theorem sum_map_worth (parts : List Part) : (parts.map worth).sum = (flatten parts).sum := by
  induction parts with
  | nil => rfl
  | cons part parts ih =>
    have hflatten : flatten (part :: parts) = part.values ++ flatten parts := List.flatMap_cons
    have hworth : worth part = part.values.sum := by
      cases part with
      | scalar value => exact (List.sum_singleton).symm
      | dice values => rfl
    rw [List.map_cons, List.sum_cons, ih, hflatten, List.sum_append, hworth]

end Breakdown

/-! ## Lines with breakdowns -/

/-- The line of a roll shows its expression, its parts where they are asked for, and its total. -/
theorem CommandLine.rollLine_eq (expression : String) (withBreakdown : Bool) (parts : List Part) :
    rollLine expression withBreakdown parts =
      "  Roll " ++ expression ++ ": " ++ (if withBreakdown then breakdown parts ++ " = " else "") ++
        toString (total parts) := by
  have hsame (text : String) : toString text = text := rfl
  refine String.toList_inj.mp ?_
  cases withBreakdown <;> simp [rollLine, plainText, rollSpans, hsame]

open CommandLine (rollLine)

/--
**Breakdowns are unambiguous and add up.**

No two lists of parts have the same breakdown: the reader finds in a breakdown the parts that it was made
of. Taken as a sum, it comes to the sum of all their numbers, and that is what a line with a breakdown
shows after it.
-/
theorem breakdown_unambiguous :
    Function.Injective breakdown ∧
    ∀ (expression : String) (parts : List Part),
      Breakdown.read? (breakdown parts) = some parts ∧
      Breakdown.value? (breakdown parts) = some (flatten parts).sum ∧
      rollLine expression true parts =
        "  Roll " ++ expression ++ ": " ++ breakdown parts ++ " = " ++ toString (flatten parts).sum := by
  refine ⟨?_, ?_⟩
  · intro parts others hsame
    have hparts := Breakdown.read?_breakdown parts
    rw [hsame, Breakdown.read?_breakdown others] at hparts
    exact (Option.some.inj hparts).symm
  · intro expression parts
    have hread := Breakdown.read?_breakdown parts
    refine ⟨hread, ?_, ?_⟩
    · rw [Breakdown.value?, hread, Option.map_some, Breakdown.sum_map_worth]
    · rw [CommandLine.rollLine_eq, if_pos rfl, ← String.append_assoc]
      rfl

example : breakdown [.scalar 2, .dice [], .dice [-1, 3], .scalar (-4)] = "2 +[] +[-1, 3] -4" := by
  decide +kernel

end DiceNotation
