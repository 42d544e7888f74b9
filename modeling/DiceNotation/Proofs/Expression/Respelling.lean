import DiceNotation.Proofs.Expression.Tidying

/-!
# Respelled expressions

One expression has many spellings. Blanks may stand anywhere in it, even inside a number, and the letters
from A to Z may be capitals or not. All spellings are tidied to the same text.

For blanks this is plain, as they go first. For letters it is not: a capital sigma is put in lowercase
according to the characters around it, so it has to be seen that a letter and its capital do not differ in
that respect either.
-/

namespace DiceNotation

namespace Text

/-! ## Letters and their capitals -/

/-- The capitals from A to Z. -/
def capitals : List Char := "ABCDEFGHIJKLMNOPQRSTUVWXYZ".toList

/-- A character that is no capital from A to Z is left as it is. -/
theorem toLower_eq_self_or_mem_capitals (c : Char) : c.toLower = c ∨ c ∈ capitals := by
  unfold Char.toLower
  split
  · next hrange =>
    have hlow : 65 ≤ c.toNat := hrange.1
    have hhigh : c.toNat ≤ 90 := hrange.2
    have hall : ∀ n < 91, 65 ≤ n → Char.ofNat n ∈ capitals := by decide
    have hmem := hall c.toNat (by omega) hlow
    rw [Char.ofNat_toNat] at hmem
    exact Or.inr hmem
  · exact Or.inl rfl

/-- What does not tell a capital from its letter does not tell any character from its ASCII lowercase form. -/
theorem apply_toLower {α : Type} {f : Char → α} (h : ∀ c ∈ capitals, f c.toLower = f c) (c : Char) :
    f c.toLower = f c := by
  rcases toLower_eq_self_or_mem_capitals c with heq | hmem
  · rw [heq]
  · exact h c hmem

/-- Whether none of the ranges has a code point from `first` to `last`. -/
def CodeRanges.avoid (ranges : CodeRanges) (first last : Nat) : Bool :=
  ranges.all fun range => range.2.blt first || last.blt range.1

theorem CodeRanges.covers_eq_false {ranges : CodeRanges} {first last code : Nat}
    (h : ranges.avoid first last = true) (hfirst : first ≤ code) (hlast : code ≤ last) :
    ranges.covers code = false := by
  refine List.any_eq_false.mpr fun range hrange => ?_
  have hapart := List.all_eq_true.mp h range hrange
  simp only [Bool.or_eq_true, Nat.blt_eq] at hapart
  simp only [Bool.and_eq_true, decide_eq_true_eq]
  omega

/-- What is read off the tables: a letter and its capital are found in the same of them, and neither among the
characters that are passed over. -/
theorem capitals_checked :
    (capitals.all fun c => isBlank c.toLower == isBlank c && isCased c.toLower == isCased c &&
      lowerCode c.toLower.toNat == lowerCode c.toNat) = true ∧
    caseIgnorableRanges.avoid 0x41 0x5A = true ∧ caseIgnorableRanges.avoid 0x61 0x7A = true := by
  decide +kernel

theorem toLower_alike {c : Char} (h : c ∈ capitals) : isBlank c.toLower = isBlank c ∧
    isCased c.toLower = isCased c ∧ lowerCode c.toLower.toNat = lowerCode c.toNat := by
  have hc := List.all_eq_true.mp capitals_checked.1 c h
  simpa [and_assoc] using hc

theorem isBlank_toLower (c : Char) : isBlank c.toLower = isBlank c :=
  apply_toLower (fun _ hc => (toLower_alike hc).1) c

/-- Letters from A to Z are not passed over, capitals or not. -/
theorem isCaseIgnorable_toLower (c : Char) : isCaseIgnorable c.toLower = isCaseIgnorable c := by
  refine apply_toLower (fun c hc => ?_) c
  have hcodes : (capitals.all fun c => decide ((0x41 ≤ c.toNat ∧ c.toNat ≤ 0x5A) ∧
      0x61 ≤ c.toLower.toNat ∧ c.toLower.toNat ≤ 0x7A)) = true := by decide
  obtain ⟨⟨hfirst, hlast⟩, hfirst', hlast'⟩ := of_decide_eq_true (List.all_eq_true.mp hcodes c hc)
  obtain ⟨-, hcapitals, hsmall⟩ := capitals_checked
  unfold isCaseIgnorable
  rw [CodeRanges.covers_eq_false hcapitals hfirst hlast, CodeRanges.covers_eq_false hsmall hfirst' hlast']

theorem isCased_toLower (c : Char) : isCased c.toLower = isCased c :=
  apply_toLower (fun _ hc => (toLower_alike hc).2.1) c

theorem lowerCode_toLower (c : Char) : lowerCode c.toLower.toNat = lowerCode c.toNat :=
  apply_toLower (f := fun c => lowerCode c.toNat) (fun _ hc => (toLower_alike hc).2.2) c

/-- A character that is neither a capital from A to Z nor the letter of one comes from itself only. -/
theorem toLower_eq_iff {d : Char} (h : (capitals.all fun c => decide (c.toLower ≠ d ∧ c ≠ d)) = true) (c : Char) :
    c.toLower = d ↔ c = d := by
  rcases toLower_eq_self_or_mem_capitals c with heq | hmem
  · rw [heq]
  · obtain ⟨hlower, hself⟩ := of_decide_eq_true (List.all_eq_true.mp h c hmem)
    exact iff_of_false hlower hself

theorem lowerChar_toLower (c : Char) : lowerChar c.toLower = lowerChar c := by
  have hdotted : c.toLower = 'İ' ↔ c = 'İ' := toLower_eq_iff (by decide) c
  unfold lowerChar
  simp only [hdotted, lowerCode_toLower]

/-- A capital sigma finds the same after it, whatever the case of the letters there. -/
theorem startsCased_map_toLower (text : List Char) :
    startsCased (text.map Char.toLower) = startsCased text := by
  have hignorable : isCaseIgnorable ∘ Char.toLower = isCaseIgnorable := funext isCaseIgnorable_toLower
  unfold startsCased
  rw [List.dropWhile_map, hignorable]
  cases text.dropWhile isCaseIgnorable with
  | nil => rfl
  | cons c rest => exact isCased_toLower c

/-- The lowercase form of a text does not depend on the case of its letters from A to Z. -/
theorem lowerFrom_map_toLower (afterCased : Bool) (text : List Char) :
    lowerFrom afterCased (text.map Char.toLower) = lowerFrom afterCased text := by
  induction text generalizing afterCased with
  | nil => rfl
  | cons c rest ih =>
    have hsigma : c.toLower = 'Σ' ↔ c = 'Σ' := toLower_eq_iff (by decide) c
    simp only [List.map_cons, lowerFrom, hsigma, lowerChar_toLower, startsCased_map_toLower,
      isCaseIgnorable_toLower, isCased_toLower, ih]

end Text

namespace Expression

/-! ## Spellings -/

/-- Two spellings of one text: blanks are put in or left out, and letters from A to Z are capitals or not. -/
inductive Respells : List Char → List Char → Prop where
  | nil : Respells [] []
  | putIn {c : Char} {text other : List Char} :
      Text.isBlank c = true → Respells text other → Respells text (c :: other)
  | leaveOut {c : Char} {text other : List Char} :
      Text.isBlank c = true → Respells text other → Respells (c :: text) other
  | same {c d : Char} {text other : List Char} :
      c.toLower = d.toLower → Respells text other → Respells (c :: text) (d :: other)

/-- The text without blanks and without capitals from A to Z. -/
def plainSpelling (text : List Char) : List Char :=
  (text.filter fun c => !Text.isBlank c).map Char.toLower

theorem plainSpelling_cons_of_blank {c : Char} (h : Text.isBlank c = true) (text : List Char) :
    plainSpelling (c :: text) = plainSpelling text := by
  rw [plainSpelling, List.filter_cons_of_neg (by simp [h])]
  rfl

theorem plainSpelling_cons_of_not_blank {c : Char} (h : Text.isBlank c = false) (text : List Char) :
    plainSpelling (c :: text) = c.toLower :: plainSpelling text := by
  rw [plainSpelling, List.filter_cons_of_pos (by simp [h])]
  rfl

theorem Respells.plainSpelling_eq {text other : List Char} (h : Respells text other) :
    plainSpelling text = plainSpelling other := by
  induction h with
  | nil => rfl
  | putIn hblank _ ih => rw [plainSpelling_cons_of_blank hblank, ih]
  | leaveOut hblank _ ih => rw [plainSpelling_cons_of_blank hblank, ih]
  | @same c d text other hletter _ ih =>
    have hblanks : Text.isBlank c = Text.isBlank d := by
      rw [← Text.isBlank_toLower c, hletter, Text.isBlank_toLower]
    cases hblank : Text.isBlank c with
    | true =>
      rw [plainSpelling_cons_of_blank hblank, plainSpelling_cons_of_blank (hblanks ▸ hblank), ih]
    | false =>
      rw [plainSpelling_cons_of_not_blank hblank, plainSpelling_cons_of_not_blank (hblanks ▸ hblank),
        hletter, ih]

/-- A character of the plain spelling is written in the other text, maybe after blanks. -/
theorem Respells.of_plainSpelling_eq_cons {c : Char} {text other : List Char}
    (ih : ∀ other, plainSpelling text = plainSpelling other → Respells text other)
    (h : c.toLower :: plainSpelling text = plainSpelling other) : Respells (c :: text) other := by
  induction other with
  | nil => cases h
  | cons d other ihOther =>
    cases hblank : Text.isBlank d with
    | true =>
      rw [plainSpelling_cons_of_blank hblank] at h
      exact .putIn hblank (ihOther h)
    | false =>
      rw [plainSpelling_cons_of_not_blank hblank] at h
      obtain ⟨hletter, hrest⟩ := List.cons.inj h
      exact .same hletter (ih other hrest)

theorem Respells.nil_of_plainSpelling_eq_nil {other : List Char} (h : [] = plainSpelling other) :
    Respells [] other := by
  induction other with
  | nil => exact .nil
  | cons d other ih =>
    cases hblank : Text.isBlank d with
    | true =>
      rw [plainSpelling_cons_of_blank hblank] at h
      exact .putIn hblank (ih h)
    | false =>
      rw [plainSpelling_cons_of_not_blank hblank] at h
      cases h

/-- **Spellings of one text** are the texts with one plain spelling. -/
theorem respells_iff {text other : List Char} : Respells text other ↔ plainSpelling text = plainSpelling other := by
  refine ⟨Respells.plainSpelling_eq, fun h => ?_⟩
  induction text generalizing other with
  | nil => exact .nil_of_plainSpelling_eq_nil h
  | cons c text ih =>
    cases hblank : Text.isBlank c with
    | true =>
      rw [plainSpelling_cons_of_blank hblank] at h
      exact .leaveOut hblank (ih h)
    | false =>
      rw [plainSpelling_cons_of_not_blank hblank] at h
      exact .of_plainSpelling_eq_cons (fun _ => ih) h

instance (text other : List Char) : Decidable (Respells text other) :=
  decidable_of_iff _ respells_iff.symm

/-- A text is tidied to what its plain spelling is tidied to. -/
theorem lowerFrom_plainSpelling (text : List Char) :
    Text.lowerFrom false (plainSpelling text) = tidyChars text := by
  rw [plainSpelling, Text.lowerFrom_map_toLower]
  rfl

/-- **All spellings of a text are tidied to the same.** -/
theorem Respells.tidy_eq {text other : String} (h : Respells text.toList other.toList) :
    tidy other = tidy text := by
  have hchars : tidyChars text.toList = tidyChars other.toList := by
    rw [← lowerFrom_plainSpelling, h.plainSpelling_eq, lowerFrom_plainSpelling]
  rw [tidy, tidy, hchars]

end Expression

end DiceNotation
