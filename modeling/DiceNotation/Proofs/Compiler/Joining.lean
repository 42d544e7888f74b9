import DiceNotation.Proofs.Compiler.Faithful
import DiceNotation.Proofs.Expression.Cutting
import DiceNotation.Proofs.Expression.Tidying
import DiceNotation.Proofs.Roll

/-!
# Expressions put together

A signed expression put behind a closed one compiles to the chunks and terms of both, and rolls like the
one after the other: the second one finds the source as the first one left it, the parts and the calls
are those of both, and an error of the first one, or else of the second one, ends the roll.

Three things come together here. The cut is not moved by what stands on its other side, each chunk is
compiled by itself, and rolling a row of terms is rolling its beginning and then its end.
-/

namespace DiceNotation

/-! ## Rolling -/

theorem total_append (parts others : List Part) : total (parts ++ others) = total parts + total others := by
  rw [total, total, total, flatten, List.flatMap_append, List.foldr_append]
  show (flatten parts).foldr (· + ·) (total others) = _
  induction flatten parts with
  | nil => exact (Int.zero_add _).symm
  | cons value rest ih => rw [List.foldr_cons, List.foldr_cons, ih, Int.add_assoc]

/-- The parts of two evaluators, rolled one after the other. -/
def rollBoth {σ : Type} (source : Source σ) (first second : Evaluator) (state : σ) :
    Report σ (List Part) :=
  match first.roll.run source state with
  | ⟨.error e, calls, left⟩ => ⟨.error e, calls, left⟩
  | ⟨.ok parts, calls, left⟩ =>
    match second.roll.run source left with
    | ⟨.error e, more, left⟩ => ⟨.error e, calls ++ more, left⟩
    | ⟨.ok others, more, left⟩ => ⟨.ok (parts ++ others), calls ++ more, left⟩

/-- The parts of both evaluators add up to the total of the first one and that of the second one. -/
theorem rollBoth_total {σ : Type} {source : Source σ} {first second : Evaluator} {state : σ}
    {parts others : List Part} (h₁ : (first.roll.run source state).outcome = .ok parts)
    (h₂ : (second.roll.run source (first.roll.run source state).state).outcome = .ok others) :
    (rollBoth source first second state).outcome.map total = .ok (total parts + total others) := by
  rw [rollBoth]
  rcases hr₁ : first.roll.run source state with ⟨outcome, calls, left⟩
  rw [hr₁] at h₁ h₂
  dsimp only at h₁ h₂
  subst h₁
  rcases hr₂ : second.roll.run source left with ⟨outcome, more, after⟩
  rw [hr₂] at h₂
  dsimp only at h₂
  subst h₂
  dsimp only
  rw [hr₂]
  exact congrArg Except.ok (total_append parts others)

/-- An evaluator with the terms of two others rolls like the one after the other. -/
theorem run_roll_eq_rollBoth {e first second : Evaluator}
    (h : e.program.terms = first.program.terms ++ second.program.terms) {σ : Type} (source : Source σ)
    (state : σ) : e.roll.run source state = rollBoth source first second state := by
  have hroll : e.roll = first.roll.bind fun parts => second.roll.bind fun others =>
      .done (parts ++ others) := by
    show rollTerms e.program.terms = _
    rw [h, rollTerms, Roll.mapEach_append]
    rfl
  rw [hroll, Roll.run_bind, rollBoth]
  rcases first.roll.run source state with ⟨outcome, calls, left⟩
  cases outcome with
  | error e => rfl
  | ok parts =>
    dsimp only
    rw [Roll.run_bind]
    rcases second.roll.run source left with ⟨outcome, more, left⟩
    cases outcome with
    | error e => rfl
    | ok others => simp

/-! ## Compiling -/

/-- A program that fits the limits has a text. -/
theorem Program.Fits.expression_ne_empty {limits : Limits} {p : Program} (h : p.Fits limits) :
    p.expression ≠ "" := by
  intro hempty
  have hvalid := h.valid
  rw [h.chunks, hempty] at hvalid
  exact absurd hvalid (by decide +kernel)

/-- Programs that fit the limits can be put together where a cut goes, if there is room. -/
theorem Program.Fits.append {limits : Limits} {p q : Program} (hp : p.Fits limits) (hq : q.Fits limits)
    (hclosed : ¬Expression.EndsOpen p.expression.toList)
    (hsigned : Expression.StartsWithSign q.expression.toList)
    (hlength : p.expression.length + q.expression.length ≤ limits.maxLength)
    (hcount : p.chunks.length + q.chunks.length ≤ limits.maxChunks) :
    Program.Fits limits ⟨p.expression ++ q.expression, p.chunks ++ q.chunks, p.terms ++ q.terms⟩ where
  length := by rw [String.length_append]; exact hlength
  chunks := by
    rw [Expression.cut_append hp.expression_ne_empty hclosed hsigned, ← hp.chunks, ← hq.chunks]
  count := by rw [List.length_append]; exact hcount
  valid := by
    have hv := hp.valid
    have hw := hq.valid
    unfold invalidChunks at hv hw ⊢
    rw [List.filter_append, hv, hw, List.append_nil]
  terms := List.rel_append hp.terms hq.terms

namespace Compiler

/-- A compiler that came about under the limits gives for a text the programs that fit them. -/
theorem Reachable.compile_eq_ok {limits : Limits} {c : Compiler} (hc : Reachable limits c)
    {text : String} {made : Stamped Evaluator} (h : (c.compile (.text text)).1 = .ok made) :
    made.value.expression = Expression.tidy text ∧ made.value.program.Fits limits :=
  Program.ofExpression_eq_ok_iff.mp (hc.ofExpression_of_compile h)

theorem Reachable.exists_compile_eq_ok {limits : Limits} {c : Compiler} (hc : Reachable limits c)
    {text : String} {p : Program} (htext : p.expression = Expression.tidy text) (hp : p.Fits limits) :
    ∃ made, (c.compile (.text text)).1 = .ok made ∧ made.value.program = p :=
  hc.exists_compile_of_ofExpression (Program.ofExpression_eq_ok_iff.mpr ⟨htext, hp⟩)

/--
**Compiling and rolling are compositional.**

Let two tidied expressions compile under the same limits, the first one closed and the second one with a
sign in front, both together within the limits. Then every compiler under these limits compiles the one
followed by the other, to the chunks and terms of both. On every source this rolls like the one after
the other, and the totals add up.
-/
theorem exists_compile_append {limits : Limits} {c c₁ c₂ : Compiler} (hc : Reachable limits c)
    (hc₁ : Reachable limits c₁) (hc₂ : Reachable limits c₂) {first second : String}
    (ht₁ : Expression.IsTidy first) (ht₂ : Expression.IsTidy second) {e₁ e₂ : Stamped Evaluator}
    (h₁ : (c₁.compile (.text first)).1 = .ok e₁) (h₂ : (c₂.compile (.text second)).1 = .ok e₂)
    (hclosed : ¬Expression.EndsOpen first.toList) (hsigned : Expression.StartsWithSign second.toList)
    (hlength : first.length + second.length ≤ limits.maxLength)
    (hcount : e₁.value.chunks.length + e₂.value.chunks.length ≤ limits.maxChunks) :
    ∃ e, (c.compile (.text (first ++ second))).1 = .ok e ∧
      e.value.program = ⟨first ++ second, e₁.value.chunks ++ e₂.value.chunks,
        e₁.value.program.terms ++ e₂.value.program.terms⟩ ∧
      (∀ (σ : Type) (source : Source σ) (state : σ),
        e.value.roll.run source state = rollBoth source e₁.value e₂.value state) ∧
      ∀ (σ : Type) (source : Source σ) (state : σ) (parts others : List Part),
        (e₁.value.roll.run source state).outcome = .ok parts →
        (e₂.value.roll.run source (e₁.value.roll.run source state).state).outcome = .ok others →
        (e.value.roll.run source state).outcome.map total = .ok (total parts + total others) := by
  obtain ⟨htext₁, hfits₁⟩ := hc₁.compile_eq_ok h₁
  obtain ⟨htext₂, hfits₂⟩ := hc₂.compile_eq_ok h₂
  rw [ht₁] at htext₁
  rw [ht₂] at htext₂
  have hfits : Program.Fits limits ⟨first ++ second, e₁.value.chunks ++ e₂.value.chunks,
      e₁.value.program.terms ++ e₂.value.program.terms⟩ := by
    subst htext₁ htext₂
    exact hfits₁.append hfits₂ hclosed hsigned hlength hcount
  obtain ⟨e, he, hprogram⟩ := hc.exists_compile_eq_ok (ht₁.append ht₂).symm hfits
  have hroll : ∀ (σ : Type) (source : Source σ) (state : σ),
      e.value.roll.run source state = rollBoth source e₁.value e₂.value state := by
    intro σ source state
    exact run_roll_eq_rollBoth (by rw [hprogram]) source state
  refine ⟨e, he, hprogram, hroll, ?_⟩
  intro σ source state parts others hparts hothers
  rw [hroll]
  exact rollBoth_total hparts hothers

/-- A pool that keeps its highest dice, before one that explodes and counts against it. -/
theorem exists_compile_append_pools : ∃ e₁ e₂ e : Stamped Evaluator,
    (Compiler.compile { owner := 0 } (.text "4d6kh3")).1 = .ok e₁ ∧
      (Compiler.compile { owner := 0 } (.text "-1d4!")).1 = .ok e₂ ∧
      (Compiler.compile { owner := 0 } (.text ("4d6kh3" ++ "-1d4!"))).1 = .ok e ∧
      e.value.program = ⟨"4d6kh3" ++ "-1d4!", ["4d6kh3", "-1d4!"],
        [.pool { count := 4, faces := 6, modifier := some "kh", argument := 3 },
          .pool { count := 1, faces := 4, negative := true, modifier := some "!", argument := 4 }]⟩ := by
  have hc : Reachable .standard { owner := 0 } := Reachable.init 0
  have ht₁ : Expression.IsTidy "4d6kh3" := by unfold Expression.IsTidy; decide +kernel
  have ht₂ : Expression.IsTidy "-1d4!" := by unfold Expression.IsTidy; decide +kernel
  have hp₁ : Program.ofExpression .standard (.text "4d6kh3") = .ok ⟨"4d6kh3", ["4d6kh3"],
      [.pool { count := 4, faces := 6, modifier := some "kh", argument := 3 }]⟩ := by decide +kernel
  have hp₂ : Program.ofExpression .standard (.text "-1d4!") = .ok ⟨"-1d4!", ["-1d4!"],
      [.pool { count := 1, faces := 4, negative := true, modifier := some "!", argument := 4 }]⟩ := by
    decide +kernel
  obtain ⟨htext₁, hfits₁⟩ := Program.ofExpression_eq_ok_iff.mp hp₁
  obtain ⟨htext₂, hfits₂⟩ := Program.ofExpression_eq_ok_iff.mp hp₂
  obtain ⟨e₁, h₁, hprogram₁⟩ := hc.exists_compile_eq_ok htext₁ hfits₁
  obtain ⟨e₂, h₂, hprogram₂⟩ := hc.exists_compile_eq_ok htext₂ hfits₂
  have hchunks₁ : e₁.value.chunks = ["4d6kh3"] := congrArg Program.chunks hprogram₁
  have hchunks₂ : e₂.value.chunks = ["-1d4!"] := congrArg Program.chunks hprogram₂
  obtain ⟨e, he, hprogram, -⟩ := exists_compile_append hc hc hc ht₁ ht₂ h₁ h₂
    (by unfold Expression.EndsOpen; decide) (by unfold Expression.StartsWithSign; decide)
    (by decide) (by rw [hchunks₁, hchunks₂]; decide)
  rw [hchunks₁, hchunks₂, hprogram₁, hprogram₂] at hprogram
  exact ⟨e₁, e₂, e, h₁, h₂, he, hprogram⟩

end Compiler

end DiceNotation
