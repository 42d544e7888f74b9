import DiceNotation.Proofs.Chunk.Reading
import DiceNotation.Proofs.Expression.Tidying

/-!
# The characters of chunks

Chunks are written in digits, of whatever script, and in a few letters and marks. None of these is blank or a
capital. So a chunk that is written out is a tidied expression, and it makes no difference to it that pools are
read in letters of either case.
-/

namespace DiceNotation

/-! ## The alphabet -/

/-- The characters other than digits that chunks are written in. -/
def chunkLetters : List Char := ['+', '-', 'd', 'f', '%', 'r', 't', '!', 'k', 'h', 'l']

/-- Whether a character may stand in a chunk. -/
def inAlphabet (x : Char) : Bool := Text.isDigit x || chunkLetters.contains x

theorem AreDigits.all_inAlphabet {text : List Char} (h : AreDigits text) : text.all inAlphabet = true :=
  List.all_eq_true.mpr fun x hx => by rw [inAlphabet, h x hx, Bool.true_or]

theorem Sign.all_inAlphabet (s : Sign) : s.write.all inAlphabet = true := by
  cases s <;> rfl

theorem Modifier.all_inAlphabet (m : Modifier) : m.token.toList.all inAlphabet = true := by
  cases m <;> rfl

theorem Faces.WellFormed.all_inAlphabet {f : Faces} (h : f.WellFormed) : f.write.all inAlphabet = true := by
  cases f with
  | number digits => exact h.2.all_inAlphabet
  | fudge | percent => rfl

theorem ModifierText.WellFormed.all_inAlphabet {m : ModifierText} (h : m.WellFormed) :
    m.write.all inAlphabet = true := by
  rw [write, argument, List.all_append, List.all_append, m.modifier.all_inAlphabet, m.sign.all_inAlphabet,
    h.1.all_inAlphabet]
  rfl

theorem Chunk.WellFormed.all_inAlphabet {c : Chunk} (h : c.WellFormed) : c.write.all inAlphabet = true := by
  cases c with
  | constant s digits =>
    rw [write, List.all_append, s.all_inAlphabet, h.2.all_inAlphabet]
    rfl
  | pool t =>
    obtain ⟨s, count, f, m⟩ := t
    obtain ⟨hcount, hfaces, hmodifier⟩ := h
    have hm : (m.elim [] ModifierText.write).all inAlphabet = true := by
      cases m with
      | none => rfl
      | some m => exact (hmodifier m rfl).all_inAlphabet
    simp only [write, PoolText.write, List.all_append, List.all_cons, s.all_inAlphabet, hcount.all_inAlphabet,
      hfaces.all_inAlphabet, hm]
    rfl

/-! ## Neither blank nor capital -/

theorem isLower_of_inAlphabet {x : Char} (h : inAlphabet x = true) : Text.IsLower x := by
  have hletters : (chunkLetters.all fun y => y != 'İ' && Text.lowerCode y.toNat == y.toNat) = true := by
    decide +kernel
  rcases Bool.or_eq_true_iff.mp h with h | h
  · exact Text.isLower_of_isDigit h
  · have hx := List.all_eq_true.mp hletters x (List.contains_iff_mem.mp h)
    simp only [Bool.and_eq_true, bne_iff_ne, beq_iff_eq] at hx
    exact Text.isLower_of_lowerCode hx.1 hx.2

theorem blankRanges_offDigits :
    (Text.blankRanges.all fun range => Text.offDigits range.1 range.2) = true := by
  decide +kernel

/-- Digits are not blank. -/
theorem isBlank_of_isDigit {x : Char} (h : Text.isDigit x = true) : Text.isBlank x = false := by
  rw [Text.isBlank, Text.CodeRanges.covers, List.any_eq_false]
  intro range hrange
  have hoff := Text.not_mem_of_offDigits h (List.all_eq_true.mp blankRanges_offDigits range hrange)
  simp only [Bool.and_eq_true, decide_eq_true_eq]
  omega

theorem isSettled_of_inAlphabet {x : Char} (h : inAlphabet x = true) : Expression.IsSettled x := by
  refine ⟨?_, isLower_of_inAlphabet h⟩
  have hletters : (chunkLetters.all fun y => !Text.isBlank y) = true := by decide
  rcases Bool.or_eq_true_iff.mp h with h | h
  · exact isBlank_of_isDigit h
  · simpa using List.all_eq_true.mp hletters x (List.contains_iff_mem.mp h)

/-! ## Chunks as expressions -/

/-- Nothing but a line end is taken off a text, and from its end. -/
theorem exists_withoutLineEnd_append_eq (text : List Char) :
    ∃ tail, withoutLineEnd text ++ tail = text ∧ ∀ x ∈ tail, x = '\n' := by
  unfold withoutLineEnd
  split
  · rename_i hlast
    exact ⟨['\n'], List.dropLast_append_getLast? _ hlast, by simp⟩
  · exact ⟨[], List.append_nil text, by simp⟩

namespace Chunk

variable {c : Chunk}

theorem lowercase_of_ofText? {text : String} (h : ofText? text = some c) :
    Text.lowercase text = text := by
  obtain ⟨hc, hwrite⟩ := ofText?_eq_some_iff_write.mp h
  obtain ⟨tail, htext, htail⟩ := exists_withoutLineEnd_append_eq text.toList
  have hlower : ∀ x ∈ text.toList, Text.IsLower x := by
    rw [← htext, ← hwrite]
    refine List.forall_mem_append.mpr ⟨fun x hx => ?_, fun x hx => ?_⟩
    · exact isLower_of_inAlphabet (List.all_eq_true.mp hc.all_inAlphabet x hx)
    · rw [htail x hx]
      exact Text.isLower_of_lowerCode (by decide) (by decide +kernel)
  rw [Text.lowercase, Text.lowerFrom_of_isLower false hlower, String.ofList_toList]

/-- A chunk as an expression. -/
def text (c : Chunk) : String := String.ofList c.write

theorem toList_text (c : Chunk) : c.text.toList = c.write := String.toList_ofList

theorem WellFormed.isTidy_text (h : c.WellFormed) : Expression.IsTidy c.text := by
  refine Expression.isTidy_iff.mpr fun x hx => ?_
  rw [toList_text] at hx
  exact isSettled_of_inAlphabet (List.all_eq_true.mp h.all_inAlphabet x hx)

theorem WellFormed.ofText?_text (h : c.WellFormed) : ofText? c.text = some c := by
  refine ofText?_eq_some_iff_write.mpr ⟨h, ?_⟩
  rw [withoutLineEnd_of_not_mem h.isTidy_text.lineEnd_not_mem, toList_text]

theorem WellFormed.text_mem_chunk (h : c.WellFormed) : c.text.toList ∈ Grammar.chunk :=
  Grammar.mem_chunk.mpr ⟨c, h, c.toList_text.symm⟩

end Chunk

end DiceNotation
