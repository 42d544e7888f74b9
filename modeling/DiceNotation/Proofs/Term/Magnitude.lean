import Mathlib.Data.List.Forall2
import DiceNotation.Proofs.Program.Refusals
import DiceNotation.Proofs.Term.Checks
import DiceNotation.Proofs.Term.Ranges

/-!
# How large totals get

The limits bound what an expression may come to. A constant has no more digits than the expression has
characters; a pool ends with at most twice as many dice as are allowed, none of which is further from zero
than the most faces. So under the standard limits a total is far from a number that is too long to be written.
-/

namespace DiceNotation

/-! ## Digits -/

namespace Text

theorem digitValue_lt (c : Char) : (digitValue? c).getD 0 < 10 := by
  unfold digitValue?
  cases hfound : zeros.find? fun first => first ≤ c.toNat && c.toNat < first + 10 with
  | none => exact Nat.zero_lt_succ 9
  | some first =>
    have hrange := List.find?_some hfound
    simp only [Bool.and_eq_true, decide_eq_true_eq] at hrange
    rw [Option.map_some, Option.getD_some]
    omega

/-- A row of digits stands for a number that is not longer. -/
theorem digitsValue_lt (digits : List Char) : digitsValue digits < 10 ^ digits.length := by
  induction digits using List.reverseRecOn with
  | nil => decide
  | append_singleton digits c ih =>
    have hdigit := digitValue_lt c
    have hvalue : digitsValue (digits ++ [c]) = 10 * digitsValue digits + (digitValue? c).getD 0 := by
      rw [digitsValue, List.foldl_append]
      rfl
    rw [hvalue, List.length_append, List.length_singleton, Nat.pow_succ]
    omega

/-- A number that is below the bound can be written. -/
theorem isOverlong_eq_false {n : Int} (h : n.natAbs < 10 ^ maxDigits) : isOverlong n = false := by
  -- for a variable exponent the two forms of the power are the same without being evaluated
  have hpow : ∀ exponent, n.natAbs < 10 ^ exponent → n.natAbs < Nat.pow 10 exponent := fun _ hlt => hlt
  exact decide_eq_false (Nat.not_le.mpr (hpow maxDigits h))

end Text

/-! ## Sums -/

/-- Numbers that are not far from zero do not add up to more than their number allows. -/
theorem natAbs_sum_le {values : List Int} {most : Nat} (h : ∀ value ∈ values, value.natAbs ≤ most) :
    values.sum.natAbs ≤ values.length * most := by
  induction values with
  | nil => simp
  | cons value rest ih =>
    obtain ⟨hfirst, hrest⟩ := List.forall_mem_cons.mp h
    have hsum := Int.natAbs_add_le value rest.sum
    have hlater := ih hrest
    rw [List.sum_cons, List.length_cons, Nat.succ_mul]
    omega

/-- A total is the sum of what its parts add up to. -/
theorem total_eq_sum (parts : List Part) : total parts = (parts.map fun part => part.values.sum).sum := by
  induction parts with
  | nil => rfl
  | cons part rest ih => rw [total_cons, ih, List.map_cons, List.sum_cons]

/-! ## Parts -/

variable {σ : Type} {source : Source σ} {state : σ} {limits : Limits}

/-- What a chunk adds to a total, or takes from it, is not more than this. -/
def Limits.mostOfChunk (limits : Limits) : Nat := max (10 ^ limits.maxLength) (2 * limits.maxDice * limits.maxFaces)

namespace Pool.WellFormed

variable {p : Pool}

/-- A pool ends with at most twice the dice that are allowed. -/
theorem length_le (h : p.WellFormed limits) {base values : List Int}
    (hbase : ((p.die.times p.count.toNat).run source state).outcome = .ok base)
    (hsize : p.MayComeTo base values.length) : values.length ≤ 2 * limits.maxDice := by
  have hlength := h.length_times hbase
  have hmost := h.countLe
  have hleast := h.countNonneg
  have hlimit := h.maxDice
  have hmatching := List.count_le_length (a := p.argument) (l := base)
  unfold Pool.MayComeTo at hsize
  cases hmodifier : p.modifier.bind Modifier.ofToken? with
  | none =>
    rw [hmodifier] at hsize
    dsimp only at hsize
    omega
  | some m =>
    rw [hmodifier] at hsize
    cases m <;> dsimp only [Modifier.Resizes] at hsize <;> omega

/-- No die of a pool is further from zero than the most faces. -/
theorem natAbs_le (h : p.WellFormed limits) {value : Int} (hvalue : p.least ≤ value ∧ value ≤ p.greatest) :
    value.natAbs ≤ limits.maxFaces := by
  have hmost := h.facesLe
  have hleast := h.facesPos
  have hoffset := h.offset
  unfold Pool.least Pool.greatest Pool.lowest Pool.highest at hvalue
  cases hnegative : p.negative with
  | false =>
    simp only [hnegative, Bool.false_eq_true, if_false] at hvalue
    omega
  | true =>
    simp only [hnegative, if_true] at hvalue
    omega

end Pool.WellFormed

/-- A constant is not longer than the text that it was compiled from. -/
theorem Term.natAbs_lt_of_ofText {chunk : String} {value : Int}
    (h : Term.ofText limits chunk = .ok (.constant value)) : value.natAbs < 10 ^ chunk.length := by
  by_cases hconstant : ∃ s digits, Chunk.ofText? chunk = some (.constant s digits)
  · obtain ⟨s, digits, hread⟩ := hconstant
    rw [Term.ofText_of_constant limits hread] at h
    obtain ⟨size, hsize, hmade⟩ := bind_eq_ok h
    obtain ⟨-, rfl⟩ := readCount_eq_ok hsize
    have hvalue : value.natAbs = Text.digitsValue digits := by
      cases s <;> cases hmade <;> simp
    have hwritten : digits.length ≤ chunk.length := by
      have hdigits : digits.length ≤ (Chunk.constant s digits).write.length :=
        Chunk.length_le_of_mem_numbers (List.mem_singleton_self digits)
      obtain ⟨tail, htail, -⟩ := exists_withoutLineEnd_append_eq chunk.toList
      have hlength := congrArg List.length htail
      rw [List.length_append, String.length_toList] at hlength
      rw [(Chunk.ofText?_eq_some_iff_write.mp hread).2] at hdigits
      omega
    rw [hvalue]
    exact (Text.digitsValue_lt digits).trans_le (Nat.pow_le_pow_right (by decide) hwritten)
  · rw [Term.ofText_of_not_constant limits (by simpa using hconstant)] at h
    obtain ⟨p, -, hmade⟩ := bind_eq_ok h
    cases hmade

/-- The part of a term that is compiled from a short text is not further from zero than allowed. -/
theorem Term.natAbs_sum_le_mostOfChunk {chunk : String} {t : Term} (h : Term.ofText limits chunk = .ok t)
    (hchunk : chunk.length ≤ limits.maxLength) {part : Part} (hpart : t.RollsWithin source state part) :
    part.values.sum.natAbs ≤ limits.mostOfChunk := by
  cases hpart with
  | @constant value =>
    have hvalue := (Term.natAbs_lt_of_ofText h).le
    have hlength : 10 ^ chunk.length ≤ 10 ^ limits.maxLength := Nat.pow_le_pow_right (by decide) hchunk
    have hsum : (Part.scalar value).values.sum = value := List.sum_singleton
    rw [hsum]
    exact (hvalue.trans hlength).trans (Nat.le_max_left _ _)
  | pool hbase hsize hrange =>
    have hwellFormed : Pool.WellFormed limits _ := Term.wellFormed_of_ofText h
    have hsum := natAbs_sum_le fun value hvalue => hwellFormed.natAbs_le (hrange value hvalue)
    have hlength := Nat.mul_le_mul_right limits.maxFaces (hwellFormed.length_le hbase hsize)
    exact (hsum.trans hlength).trans (Nat.le_max_right _ _)

/-! ## Totals -/

/-- **The limits bound every total** of what compiles under them. -/
theorem Program.Fits.natAbs_total_le {p : Program} (h : p.Fits limits) (hsource : source.ShowsFaces)
    {parts : List Part} (hok : ((rollTerms p.terms).run source state).outcome = .ok parts) :
    (total parts).natAbs ≤ limits.maxChunks * limits.mostOfChunk := by
  have hshort : ∀ chunk ∈ p.chunks, chunk.length ≤ limits.maxLength := by
    rw [h.chunks]
    intro chunk hchunk
    exact (Expression.sublist_of_mem_cut hchunk).length_le.trans h.length
  have hterm : ∀ t ∈ p.terms, ∀ state part, (t.roll.run source state).outcome = .ok part →
      part.values.sum.natAbs ≤ limits.mostOfChunk := by
    refine Roll.forall_mem_of_forall₂ (((List.forall₂_and_left _ _).mpr ⟨hshort, h.terms⟩).imp ?_)
    rintro chunk t ⟨hchunk, hcompiled⟩ state part hpart
    have hwithin := (Term.wellFormed_of_ofText hcompiled).rollsWithin hsource hpart
    exact Term.natAbs_sum_le_mostOfChunk hcompiled hchunk hwithin
  have hparts := (Roll.inTurn_of_run_mapEach hterm hok).forall₂ fun _ _ _ hpart => hpart
  have hlength : parts.length ≤ limits.maxChunks := by
    rw [← hparts.length_eq, ← h.terms.length_eq]
    exact h.count
  have hsum := natAbs_sum_le (List.forall_mem_map.mpr (Roll.forall_mem_of_forall₂ hparts))
  rw [← total_eq_sum, List.length_map] at hsum
  exact hsum.trans (Nat.mul_le_mul_right _ hlength)

/-- Under limits that are not extremely large, every total can be written. -/
theorem Program.Fits.isOverlong_total {p : Program} (h : p.Fits limits)
    (hlimits : limits.maxChunks * limits.mostOfChunk < 10 ^ Text.maxDigits) (hsource : source.ShowsFaces)
    {parts : List Part} (hok : ((rollTerms p.terms).run source state).outcome = .ok parts) :
    Text.isOverlong (total parts) = false :=
  Text.isOverlong_eq_false ((h.natAbs_total_le hsource hok).trans_lt hlimits)

/-- The standard limits are not extremely large. -/
theorem Limits.standard_mostOfChunk_lt :
    Limits.standard.maxChunks * Limits.standard.mostOfChunk < 10 ^ Text.maxDigits := by
  have hmost : Limits.standard.maxChunks * Limits.standard.mostOfChunk = 10 ^ 61 := by
    decide
  rw [hmost]
  exact Nat.pow_lt_pow_right (by decide) (by decide)

end DiceNotation
