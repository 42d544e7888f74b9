import DiceNotation.Proofs.Compiler.Faithful
import DiceNotation.Proofs.Term.Compiled
import DiceNotation.Proofs.Term.Rolling

/-!
# Compiled terms are safe to roll

Every term that a compiler hands out is well-formed under its limits, be it found or made, in an evaluator
or for a chunk by itself. Rolling a well-formed term asks only for dice that have faces and only for
modifiers that exist. So on a source that answers for such dice there is one way to fail: an explosion of
more dice than allowed.
-/

namespace DiceNotation

/-- A source that answers for every die that has a face. -/
def Source.Answers {σ : Type} (source : Source σ) : Prop :=
  ∀ faces, 1 ≤ faces → ∀ state, ∃ value left, source faces state = (.ok value, left)

/-- A term that only fails by explosions, on every source that answers. -/
def Term.SafeToRoll (limits : Limits) (t : Term) : Prop :=
  ∀ (σ : Type) (source : Source σ), source.Answers → ∀ (state : σ) (e : RollError),
    (t.roll.run source state).outcome = .error e →
      ∃ p size waiting, t = .pool p ∧ p.modifier = some Modifier.explode.token ∧
        e = .limitExceeded p.argument size waiting limits.maxDice

theorem Pool.WellFormed.safeToRoll {limits : Limits} {p : Pool} (h : p.WellFormed limits) :
    (Term.pool p).SafeToRoll limits := by
  intro σ source hsource state e houtcome
  obtain ⟨more, outcome, hend, hrun⟩ := Term.run_pool_ends h.modifier source state
  obtain ⟨extra, -, -, hend⟩ := hend
  rcases hrun with ⟨-, heq⟩ | ⟨failure, -, left, hfailed⟩
  · rw [houtcome] at heq
    subst heq
    obtain ⟨hmodifier, waiting, he, -⟩ := hend
    rw [Explosion.excess_of_nonneg h.maxDice_nonneg, h.maxDice] at he
    exact ⟨p, _, waiting, rfl, hmodifier, he⟩
  · -- the source was asked for a die of the pool, and for that it has an answer
    obtain ⟨value, after, hanswer⟩ := hsource p.faces h.facesPos left
    rw [hanswer] at hfailed
    cases hfailed

theorem Term.WellFormed.safeToRoll {limits : Limits} {t : Term} (h : t.WellFormed limits) :
    t.SafeToRoll limits := by
  cases t with
  | pool p => exact Pool.WellFormed.safeToRoll h
  | constant value =>
    intro σ source _ state e houtcome
    cases houtcome

/-- Rolls of several terms fail in the one way in which a term may fail. -/
theorem limitExceeded_of_rollTerms {limits : Limits} {terms : List Term} (h : ∀ t ∈ terms, t.SafeToRoll limits)
    {σ : Type} {source : Source σ} (hsource : source.Answers) {state : σ} {e : RollError}
    (houtcome : ((rollTerms terms).run source state).outcome = .error e) :
    ∃ face size waiting, e = .limitExceeded face size waiting limits.maxDice := by
  induction terms generalizing state with
  | nil => cases houtcome
  | cons t rest ih =>
    have hcons : rollTerms (t :: rest) =
        t.roll.bind fun part => (rollTerms rest).bind fun parts => .done (part :: parts) :=
      Roll.mapEach_cons Term.roll t rest
    rw [hcons] at houtcome
    rcases hrun : t.roll.run source state with ⟨outcome, calls, left⟩
    cases outcome with
    | error failed =>
      rw [Roll.run_bind_of_error hrun] at houtcome
      cases houtcome
      obtain ⟨p, size, waiting, -, -, rfl⟩ :=
        h t List.mem_cons_self σ source hsource state e (by rw [hrun])
      exact ⟨p.argument, size, waiting, rfl⟩
    | ok part =>
      rw [Roll.run_bind_of_ok hrun, Roll.run_bind_done] at houtcome
      have hrest : ((rollTerms rest).run source left).outcome = .error e := by
        cases hlater : ((rollTerms rest).run source left).outcome with
        | ok parts => simp [Report.after, Report.map, hlater, Except.map] at houtcome
        | error failed => simpa [Report.after, Report.map, hlater, Except.map] using houtcome
      exact ih (fun other hother => h other (List.mem_cons_of_mem t hother)) hrest

namespace Compiler

/-- A program that fits the limits has well-formed terms. -/
theorem wellFormed_of_fits {limits : Limits} {p : Program} (h : p.Fits limits) :
    ∀ term ∈ p.terms, term.WellFormed limits := by
  have hterms := h.terms
  generalize p.chunks = chunks, p.terms = terms at hterms
  induction hterms with
  | nil => exact List.forall_mem_nil _
  | cons hterm _ ih => exact List.forall_mem_cons.mpr ⟨Term.wellFormed_of_ofText hterm, ih⟩

/-- A program that fits the limits only fails by explosions, on every source that answers. -/
theorem limitExceeded_of_fits {limits : Limits} {p : Program} (h : p.Fits limits) {σ : Type} {source : Source σ}
    (hsource : source.Answers) {state : σ} {e : RollError}
    (houtcome : ((rollTerms p.terms).run source state).outcome = .error e) :
    ∃ face size waiting, e = .limitExceeded face size waiting limits.maxDice :=
  limitExceeded_of_rollTerms (fun t ht => (wellFormed_of_fits h t ht).safeToRoll) hsource houtcome

theorem Reachable.wellFormed_of_compile {limits : Limits} {c : Compiler} (hc : Reachable limits c)
    {given : Value} {made : Stamped Evaluator} (h : (c.compile given).1 = .ok made) :
    ∀ term ∈ made.value.terms, term.value.WellFormed limits := by
  have hfits := (Program.ofExpression_eq_ok_iff.mp (hc.ofExpression_of_compile h)).2
  exact fun term hterm => wellFormed_of_fits hfits term.value (List.mem_map_of_mem hterm)

theorem Reachable.wellFormed_of_compileChunk {limits : Limits} {c : Compiler} (hc : Reachable limits c)
    {chunk : String} {made : Stamped Term} (h : (c.compileChunk chunk).1 = .ok made) :
    made.value.WellFormed limits := by
  obtain ⟨hfaithful, hlimits⟩ := faithful_reachable hc
  have houtcome := hfaithful.compileChunk_outcome chunk
  rw [h, hlimits] at houtcome
  cases hterm : Term.ofText limits chunk with
  | error e => rw [hterm] at houtcome; cases houtcome
  | ok term =>
    rw [hterm] at houtcome
    cases houtcome
    exact Term.wellFormed_of_ofText hterm

/--
**Compiled terms are well-formed and safe to roll.**

All terms of all evaluators that a compiler gives under fixed limits, and all terms that it gives for
chunks, whatever their text, are constants or pools within the limits, with a modifier that exists. On a
source that answers they are rolled without an error, or explode beyond the limit.
-/
theorem wellFormed_and_safeToRoll {limits : Limits} {c : Compiler} (hc : Reachable limits c) :
    (∀ given made, (c.compile given).1 = .ok made →
      ∀ term ∈ made.value.terms, term.value.WellFormed limits ∧ term.value.SafeToRoll limits) ∧
    ∀ chunk made, (c.compileChunk chunk).1 = .ok made →
      made.value.WellFormed limits ∧ made.value.SafeToRoll limits := by
  constructor
  · intro given made h term hterm
    have hwellFormed := hc.wellFormed_of_compile h term hterm
    exact ⟨hwellFormed, hwellFormed.safeToRoll⟩
  · intro chunk made h
    have hwellFormed := hc.wellFormed_of_compileChunk h
    exact ⟨hwellFormed, hwellFormed.safeToRoll⟩

/-- A chunk in capitals whose dice are moved and explode on a negative face, asked for after an expression
has failed half way. -/
theorem wellFormed_and_safeToRoll_fudge : ∃ c : Compiler, Reachable .standard c ∧
    ∃ made, (c.compileChunk "-4dF!-1").1 = .ok made ∧
      made.value = .pool { count := 4, faces := 3, offset := -2, negative := true, modifier := some "!", argument := -1 } ∧
      made.value.WellFormed .standard ∧ made.value.SafeToRoll .standard := by
  let c : Compiler := { owner := 0 }
  have hc : Reachable .standard (c.handle (.compile (.text "3d6+101d6"))).2 :=
    (Reachable.init 0).tail trivial
  have hmade : ((c.handle (.compile (.text "3d6+101d6"))).2.compileChunk "-4dF!-1").1 =
      .ok ⟨⟨0, 1⟩, .pool { count := 4, faces := 3, offset := -2, negative := true, modifier := some "!", argument := -1 }⟩ := by
    decide +kernel
  exact ⟨_, hc, _, hmade, rfl, (wellFormed_and_safeToRoll hc).2 _ _ hmade⟩

end Compiler

end DiceNotation
