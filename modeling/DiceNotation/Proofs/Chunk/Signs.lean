import DiceNotation.Proofs.Chunk.Alphabet
import DiceNotation.Proofs.Expression.Cutting

/-!
# Signs in front of chunks

A chunk without a sign in front is a chunk with one as well, and nothing else in it is read differently: the
signs of arguments are not mistaken for it.
-/

namespace DiceNotation

/-- The text with a sign in front. -/
def Sign.before (s : Sign) (text : String) : String := String.ofList (s.write ++ text.toList)

theorem Sign.toList_before (s : Sign) (text : String) : (s.before text).toList = s.write ++ text.toList :=
  String.toList_ofList

theorem Sign.plus_before (text : String) : plus.before text = "+" ++ text :=
  String.toList_injective (by rw [toList_before, String.toList_append]; rfl)

theorem Sign.minus_before (text : String) : minus.before text = "-" ++ text :=
  String.toList_injective (by rw [toList_before, String.toList_append]; rfl)

theorem withoutLineEnd_append (front : List Char) {text : List Char} (h : text ≠ []) :
    withoutLineEnd (front ++ text) = front ++ withoutLineEnd text := by
  unfold withoutLineEnd
  rw [List.getLast?_append_of_ne_nil _ h, List.dropLast_append_of_ne_nil h]
  split
  · rfl
  · rfl

namespace Chunk

/-- The sign in front of a chunk. -/
def sign : Chunk → Sign
  | constant s _ => s
  | pool t => t.sign

/-- The chunk with another sign in front. -/
def withSign (s : Sign) : Chunk → Chunk
  | constant _ digits => constant s digits
  | pool t => pool { t with sign := s }

/-- A chunk as it is written, but for the sign in front. -/
def body : Chunk → List Char
  | constant _ digits => digits
  | pool t => t.count ++ 'd' :: t.faces.write ++ t.modifier.elim [] ModifierText.write

theorem write_eq_append_body (c : Chunk) : c.write = c.sign.write ++ c.body := by
  cases c with
  | constant s digits => rfl
  | pool t => simp [write, PoolText.write, sign, body]

theorem write_withSign (c : Chunk) (s : Sign) : (c.withSign s).write = s.write ++ c.body := by
  rw [write_eq_append_body]
  cases c <;> rfl

theorem WellFormed.withSign {c : Chunk} (h : c.WellFormed) (s : Sign) : (c.withSign s).WellFormed := by
  cases c with
  | constant _ digits => exact h
  | pool t => exact h

/-- A text that does not begin with a sign is that of a chunk without one. -/
theorem sign_of_not_startsWithSign {text : String} {c : Chunk} (h : ofText? text = some c)
    (hs : ¬Expression.StartsWithSign text.toList) : c.sign = .unsigned := by
  obtain ⟨_, hwrite⟩ := ofText?_eq_some_iff_write.mp h
  obtain ⟨tail, htext, _⟩ := exists_withoutLineEnd_append_eq text.toList
  rw [← htext, ← hwrite, write_eq_append_body] at hs
  cases hsign : c.sign with
  | unsigned => rfl
  | plus =>
    rw [hsign] at hs
    exact absurd (Or.inl rfl) hs
  | minus =>
    rw [hsign] at hs
    exact absurd (Or.inr rfl) hs

/-- What follows the sign in front does not begin with another one. -/
theorem WellFormed.noSignAhead_body {c : Chunk} (h : c.WellFormed) (rest : List Char) :
    NoSignAhead (c.body ++ rest) := by
  cases c with
  | constant s digits =>
    obtain ⟨hne, hdigits⟩ := h
    obtain ⟨d, digits, rfl⟩ := List.exists_cons_of_ne_nil hne
    exact noSignAhead_cons_of_isDigit _ (hdigits d List.mem_cons_self)
  | pool t =>
    obtain ⟨s, count, f, m⟩ := t
    obtain ⟨hcount, -, -⟩ := h
    cases count with
    | nil => simp [body, NoSignAhead]
    | cons d digits => exact noSignAhead_cons_of_isDigit _ (hcount d List.mem_cons_self)

/-- A chunk has a minus in front exactly if its text begins with one. -/
theorem sign_eq_minus_iff {text : String} {c : Chunk} (h : ofText? text = some c) :
    c.sign = .minus ↔ text.toList.head? = some '-' := by
  obtain ⟨hc, hwrite⟩ := ofText?_eq_some_iff_write.mp h
  obtain ⟨tail, htext, -⟩ := exists_withoutLineEnd_append_eq text.toList
  rw [← htext, ← hwrite, write_eq_append_body, List.append_assoc]
  cases c.sign with
  | plus => simp [Sign.write]
  | minus => simp [Sign.write]
  | unsigned =>
    constructor
    · intro hsign
      cases hsign
    · intro hhead
      exact absurd rfl (hc.noSignAhead_body tail '-' hhead).2

/-- With a sign in front of its text, a chunk is read as the same chunk with the sign. -/
theorem ofText?_before {text : String} {c : Chunk} (h : ofText? text = some c) (hs : c.sign = .unsigned)
    (s : Sign) : ofText? (s.before text) = some (c.withSign s) := by
  obtain ⟨hc, hwrite⟩ := ofText?_eq_some_iff_write.mp h
  have hne : text.toList ≠ [] := by
    intro hnil
    rw [ofText?, hnil] at h
    cases h
  have hbody : withoutLineEnd text.toList = c.body := by
    rw [← hwrite, write_eq_append_body, hs]
    rfl
  refine ofText?_eq_some_iff_write.mpr ⟨hc.withSign s, ?_⟩
  rw [s.toList_before, withoutLineEnd_append _ hne, hbody, write_withSign]

end Chunk

end DiceNotation
