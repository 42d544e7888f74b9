import DiceNotation.Proofs.Compiler.Faithful
import DiceNotation.Proofs.Expression.Sums
import DiceNotation.Proofs.Term.Checks

/-!
# Expressions of one chunk

A chunk that is written out is a tidied expression, and it is cut into this chunk alone. So it compiles by
itself if it passes its own checks and is not too long, and what its evaluator rolls is one part.
-/

namespace DiceNotation

namespace Chunk

/-- A chunk that may be compiled by itself under limits. -/
structure FitsAlone (limits : Limits) (c : Chunk) : Prop where
  /-- It is a chunk. -/
  wellFormed : c.WellFormed
  /-- It is not too long. -/
  length : c.write.length ≤ limits.maxLength
  /-- An expression may have a chunk. -/
  one : 1 ≤ limits.maxChunks
  /-- The checks of a chunk pass. -/
  passes : AllPass (c.checks limits)

variable {limits : Limits} {c : Chunk}

/-- A chunk that is written out compiles if its checks pass, and to its term. -/
theorem WellFormed.ofText_text_eq_ok_iff (h : c.WellFormed) {term : Term} :
    Term.ofText limits c.text = .ok term ↔ AllPass (c.checks limits) ∧ term = c.term limits := by
  have hlower := lowercase_of_ofText? h.ofText?_text
  have hconcludes := Term.ofText_concludes limits ⟨h, c.toList_text.symm⟩ h.isTidy_text.lineEnd_not_mem hlower
  constructor
  · intro hterm
    rw [hterm] at hconcludes
    cases hconcludes with
    | passed hpass => exact ⟨hpass, rfl⟩
  · rintro ⟨hpass, rfl⟩
    cases hterm : Term.ofText limits c.text with
    | error e =>
      rw [hterm] at hconcludes
      cases hconcludes with
      | failed hfails => exact absurd hpass hfails.not_allPass
    | ok term =>
      rw [hterm] at hconcludes
      cases hconcludes with
      | passed _ => rfl

theorem FitsAlone.ofText_text (h : c.FitsAlone limits) : Term.ofText limits c.text = .ok (c.term limits) :=
  h.wellFormed.ofText_text_eq_ok_iff.mpr ⟨h.passes, rfl⟩

theorem FitsAlone.fits (h : c.FitsAlone limits) :
    Program.Fits limits ⟨c.text, [c.text], [c.term limits]⟩ where
  length := by
    rw [text, String.length_ofList]
    exact h.length
  chunks := (Expression.cut_text h.wellFormed).symm
  count := h.one
  valid := by simp [invalidChunks, isChunk, h.wellFormed.ofText?_text]
  terms := .cons h.ofText_text .nil

/-- A pool fits if it is read from how it is written and its numbers are allowed. -/
theorem fitsAlone_pool {t : PoolText} (hread : read? t.write = some (.pool t))
    (hlength : t.write.length ≤ limits.maxLength) (hone : 1 ≤ limits.maxChunks)
    (hnumbers : (t.count.length ≤ Text.maxDigits ∧ t.dice ≤ limits.maxDice) ∧
      (t.faces.digits.length ≤ Text.maxDigits ∧ t.faces.size ≤ limits.maxFaces ∧ t.faces.size ≠ 0) ∧
        t.argumentDigits.length ≤ Text.maxDigits) : (pool t).FitsAlone limits :=
  ⟨(read?_eq_some_iff.mp hread).1, hlength, hone, PoolText.allPass_checks.mpr hnumbers⟩

end Chunk

/-- A chunk that fits compiles by itself, to an evaluator that rolls its term. -/
theorem Compiler.Reachable.exists_compile_text {limits : Limits} {c : Compiler} (hc : Reachable limits c)
    {tree : Chunk} (h : tree.FitsAlone limits) :
    ∃ made, (c.compile (.text tree.text)).1 = .ok made ∧
      made.value.roll = (tree.term limits).roll.bind fun part => .done [part] := by
  have htidy : tree.text = Expression.tidy (Value.text tree.text).plain := h.wellFormed.isTidy_text.symm
  have hprogram := Program.ofExpression_eq_ok_iff.mpr ⟨htidy, h.fits⟩
  obtain ⟨made, hmade, hprogram⟩ := hc.exists_compile_of_ofExpression hprogram
  have hterms : made.value.terms.map (·.value) = [tree.term limits] := congrArg Program.terms hprogram
  refine ⟨made, hmade, ?_⟩
  rw [Evaluator.roll, hterms, rollTerms, Roll.mapEach_cons]
  rfl

end DiceNotation
