import DiceNotation.Proofs.Compiler.Identity
import DiceNotation.Proofs.Expression.Cutting
import DiceNotation.Proofs.Expression.Respelling

/-!
# One evaluator for all spellings

Evaluators are kept under the tidied texts of their expressions. As tidying gives all spellings of a text
one form and does not change that form again, whoever has compiled an expression gets the same evaluator
back for each of its spellings, for the text that the evaluator shows, and for its chunks put together
again. The compiler may have gone on working in between, under other limits too, if only it was not
cleared.
-/

namespace DiceNotation

/-- Tidying gives a text its one form. -/
structure Expression.HasOneForm (text : String) : Prop where
  /-- The form is not changed again. -/
  settled : tidy (tidy text) = tidy text
  /-- There are no blanks in it. -/
  noBlanks : ∀ c ∈ (tidy text).toList, Text.isBlank c = false
  /-- Other spellings of the text have the same form. -/
  shared : ∀ other : String, Respells text.toList other.toList → tidy other = tidy text

theorem Expression.hasOneForm (text : String) : HasOneForm text where
  settled := isTidy_tidy text
  noBlanks := fun c hc => (isTidy_iff.mp (isTidy_tidy text) c hc).1
  shared := fun _ hother => hother.tidy_eq

namespace Compiler

open Expression (tidy Respells HasOneForm)

/-- The ways to ask again for what was compiled: with the text of the evaluator, with its chunks put
together, or with another spelling of what was given. -/
inductive AsksAgain (given : Value) (e : Evaluator) (other : Value) : Prop where
  | expression : other.plain = e.expression → AsksAgain given e other
  | chunks : other.plain = String.join e.chunks → AsksAgain given e other
  | respelled : Respells given.plain.toList other.plain.toList → AsksAgain given e other

variable {c : Compiler} {given other : Value} {made : Stamped Evaluator}

/-- All ways to ask again come to the tidied text under which the evaluator is kept. -/
theorem AsksAgain.tidy_eq (h : AsksAgain given made.value other) (hcoherent : c.Coherent)
    (hmade : (c.compile given).1 = .ok made) : tidy other.plain = tidy given.plain := by
  have hshares := hcoherent.shares_of_compile hmade
  cases h with
  | expression hother =>
    rw [hother, hshares.expression]
    exact hshares.tidy
  | chunks hother =>
    rw [hother, hshares.chunks, Expression.join_cut]
    exact hshares.tidy
  | respelled hother => exact hother.tidy_eq

/-- What is kept under a text is given for every expression that is tidied to it. -/
theorem Holds.compile_eq (h : c.Holds (.text (tidy given.plain)) (.evaluator made))
    (hother : tidy other.plain = tidy given.plain) : c.compile other = (.ok made, c, []) := by
  cases h with
  | evaluator hfind =>
    rw [← hother] at hfind
    exact compile_of_found hfind

/--
**Tidying gives all spellings one form, and compiling gives them one evaluator.**

Every text has one form: tidying does not change it again, it has no blanks, and all spellings of the text
share it. Let a compiler have been asked for anything, changes of its limits included, and then give an
evaluator. As long as it is not cleared, it gives the very same evaluator whenever it is asked again, and is
not changed by that.
-/
theorem one_evaluator_for_all_spellings :
    (∀ text, HasOneForm text) ∧
    ∀ (owner : Nat) (limits : Limits) (requests : List Request) (given : Value) (made : Stamped Evaluator),
      let c := after { owner := owner, limits := limits } requests
      (c.compile given).1 = .ok made →
      ∀ later : List Request, .clear ∉ later → ∀ other, AsksAgain given made.value other →
        let d := (c.compile given).2.1.after later
        d.compile other = (.ok made, d, []) := by
  refine ⟨Expression.hasOneForm, ?_⟩
  intro owner limits requests given made c hmade later hclear other hother
  have hcoherent : c.Coherent := (coherent_of_empty rfl rfl).after requests
  have hheld : (c.compile given).2.1.Holds (.text (tidy given.plain)) (.evaluator made) :=
    .evaluator (find?_of_compile hmade)
  exact (hheld.after hclear).compile_eq (hother.tidy_eq hcoherent hmade)

/-- The highest dice are kept of a pool that is written with the sign of Kelvin. The evaluator is given again
for its text, and for a spelling with capitals and other blanks, after the limits have come to forbid its two
chunks. -/
theorem one_evaluator_for_all_spellings_kelvin :
    let given : Value := .text "4D6\u212Ah3 + 1"
    let respelled : Value := .text "\u20034 d6\u212AH3+1\n"
    let c := after { owner := 0, limits := .standard } [.compile (.text "2d6+x"), .compileChunk "+1"]
    let later : List Request := [.setLimits { maxChunks := 1 }, .compileChunk "1d2"]
    let d := (c.compile given).2.1.after later
    let made : Stamped Evaluator := ⟨⟨0, 2⟩, "4d6kh3+1", ["4d6kh3", "+1"],
      [⟨⟨0, 1⟩, .pool { count := 4, faces := 6, modifier := some "kh", argument := 3 }⟩, ⟨⟨0, 0⟩, .constant 1⟩]⟩
    (c.compile given).1 = .ok made ∧ .clear ∉ later ∧ AsksAgain given made.value respelled ∧
      d.compile respelled = (.ok made, d, []) ∧ d.compile (.text "4d6kh3+1") = (.ok made, d, []) ∧
      allowedChunks { maxChunks := 1 } respelled "4d6kh3+1" = .error (.tooManyChunks 2 1) := by
  intro given respelled c later d made
  have hmade : (c.compile given).1 = .ok made := by decide +kernel
  have hclear : .clear ∉ later := by
    simp [later]
  have hrespelled : AsksAgain given made.value respelled := .respelled (by decide +kernel)
  obtain ⟨-, hagain⟩ := one_evaluator_for_all_spellings
  have hgiven := hagain 0 .standard [.compile (.text "2d6+x"), .compileChunk "+1"] given made hmade later hclear
  have hlimits : allowedChunks { maxChunks := 1 } respelled "4d6kh3+1" = .error (.tooManyChunks 2 1) := by decide +kernel
  refine ⟨hmade, hclear, hrespelled, ?_, ?_, hlimits⟩
  · with_reducible exact hgiven respelled hrespelled
  · with_reducible exact hgiven _ (.expression rfl)

end Compiler

end DiceNotation
