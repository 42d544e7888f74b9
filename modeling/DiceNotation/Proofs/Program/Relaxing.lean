import DiceNotation.Proofs.Program.Verdict
import DiceNotation.Proofs.Roll.CutShort

/-!
# Larger limits

Limits only ever refuse. What compiles under limits compiles under larger ones, to the same text, chunks
and terms, except that the pools may explode up to the larger limit; and what is rolled without an error
is rolled alike by both.

Each check of the table fails at numbers beyond a limit, so that it passes again where the limits are
larger, and what a chunk says does not depend on them.
-/

namespace DiceNotation

/-- Limits of which none is larger than the same one of the others. -/
instance : LE Limits := ⟨fun tight loose => ∀ field, tight.get field ≤ loose.get field⟩

/-- The program with terms that explode up to another limit. -/
def Program.withLimit (limit : Int) (p : Program) : Program :=
  { p with terms := p.terms.map (Term.withLimit limit) }

theorem Program.withLimit_mk (limit : Int) (expression : String) (chunks : List String) (terms : List Term) :
    (Program.mk expression chunks terms).withLimit limit =
      ⟨expression, chunks, terms.map (Term.withLimit limit)⟩ := rfl

variable {tight loose : Limits}

/-! ## Checks -/

theorem PoolText.allPass_checks_mono (h : tight ≤ loose) {t : PoolText} (hpass : AllPass (t.checks tight)) :
    AllPass (t.checks loose) := by
  obtain ⟨⟨hcount, hdice⟩, ⟨hfaces, hmost, hleast⟩, hargument⟩ := allPass_checks.mp hpass
  exact allPass_checks.mpr ⟨⟨hcount, Nat.le_trans hdice (h .maxDice)⟩,
    ⟨hfaces, Nat.le_trans hmost (h .maxFaces), hleast⟩, hargument⟩

theorem Chunk.allPass_checks_mono (h : tight ≤ loose) {c : Chunk} (hpass : AllPass (c.checks tight)) :
    AllPass (c.checks loose) := by
  cases c with
  | constant s digits => exact hpass
  | pool t => exact PoolText.allPass_checks_mono h hpass

theorem Expression.allPass_checks_mono (h : tight ≤ loose) {given : Value}
    (hpass : AllPass (checks tight given)) : AllPass (checks loose given) := by
  unfold checks at hpass ⊢
  simp only [allPass_cons, Nat.not_lt] at hpass ⊢
  obtain ⟨hlength, hcount, hrest⟩ := hpass
  exact ⟨Nat.le_trans hlength (h .maxLength), Nat.le_trans hcount (h .maxChunks), hrest⟩

/-! ## Programs -/

/-- The limits are seen in a term only where it explodes. -/
theorem Chunk.term_withLimit (tight loose : Limits) (c : Chunk) :
    (c.term tight).withLimit loose.maxDice = c.term loose := by
  cases c <;> rfl

/-- A program under limits is one under larger limits, exploding up to the larger one. -/
theorem Verdict.mono (h : tight ≤ loose) {given : Value} {p : Program} (hp : Verdict tight given (.ok p)) :
    Verdict loose given (.ok (p.withLimit loose.maxDice)) := by
  cases hp with
  | @compiled trees hpass htrees hpasschunks =>
    have hterms : (trees.map (Chunk.term tight)).map (Term.withLimit loose.maxDice) =
        trees.map (Chunk.term loose) := by
      rw [List.map_map]
      exact List.map_congr_left fun c _ => c.term_withLimit tight loose
    have hpasschunks' : AllPass (trees.flatMap (Chunk.checks loose)) :=
      allPass_flatMap.mpr fun c hc => Chunk.allPass_checks_mono h (allPass_flatMap.mp hpasschunks c hc)
    rw [Program.withLimit_mk, hterms]
    exact .compiled (Expression.allPass_checks_mono h hpass) htrees hpasschunks'

theorem Verdict.limitedTo (h : tight ≤ loose) {given : Value} {p : Program}
    (hp : Verdict tight given (.ok p)) : ∀ t ∈ p.terms, t.LimitedTo loose.maxDice := by
  cases hp with
  | compiled _ _ _ =>
    refine List.forall_mem_map.mpr fun c _ => ?_
    cases c with
    | constant s digits => trivial
    | pool t => exact Int.ofNat_le.mpr (h .maxDice)

/-! ## Compilers -/

namespace Compiler

/--
**Larger limits do not change what succeeds.**

Let two compilers work under limits of which the second ones are not smaller than the first ones. What the
first compiler gives an evaluator for, the second one gives one for, with the same text, the same chunks
and the same terms but for the limit on explosions. Whenever the first evaluator is rolled without an
error, the second one is rolled alike on the same source: to the same parts, by the same calls, and
leaving the source in the same state.
-/
theorem exists_compile_of_le (h : tight ≤ loose) {c d : Compiler} (hc : Reachable tight c)
    (hd : Reachable loose d) {given : Value} {e : Stamped Evaluator} (he : (c.compile given).1 = .ok e) :
    ∃ e', (d.compile given).1 = .ok e' ∧
      e'.value.program = e.value.program.withLimit loose.maxDice ∧
      ∀ (σ : Type) (source : Source σ) (state : σ) (parts : List Part),
        (e.value.roll.run source state).outcome = .ok parts →
          e'.value.roll.run source state = e.value.roll.run source state := by
  have hverdict : Verdict tight given (.ok e.value.program) :=
    Program.ofExpression_eq_iff_verdict.mp (hc.ofExpression_of_compile he)
  have hloose : Program.ofExpression loose given = .ok (e.value.program.withLimit loose.maxDice) :=
    Program.ofExpression_eq_iff_verdict.mpr (hverdict.mono h)
  obtain ⟨e', he', hprogram⟩ := hd.exists_compile_of_ofExpression hloose
  refine ⟨e', he', hprogram, ?_⟩
  intro σ source state parts hparts
  have hcut : e.value.roll.IsCutOf e'.value.roll := by
    show (rollTerms e.value.program.terms).IsCutOf (rollTerms e'.value.program.terms)
    rw [hprogram]
    exact rollTerms_isCutOf (hverdict.limitedTo h)
  exact hcut.run_eq source hparts

/-- A source that shows a six, a two, a three, a one and a four. -/
def fiveDice : Source Nat := fun _ shown => (.ok ([6, 2, 3, 1, 4].getD shown 1), shown + 1)

/-- A pool explodes into all the room that its limit leaves, before another one is rolled again. -/
theorem exists_compile_of_le_explosion : ∃ e e' : Stamped Evaluator,
    (⟨10, 2, 3, 6⟩ : Limits) ≤ .standard ∧
      (Compiler.compile { owner := 0, limits := ⟨10, 2, 3, 6⟩ } (.text "2D6!6 - 1d4r")).1 = .ok e ∧
      (Compiler.compile { owner := 1 } (.text "2D6!6 - 1d4r")).1 = .ok e' ∧
      e'.value.program = e.value.program.withLimit 100 ∧
      (e.value.roll.run fiveDice 0).outcome = .ok [.dice [6, 3, 2], .dice [-4]] ∧
      e'.value.roll.run fiveDice 0 = e.value.roll.run fiveDice 0 := by
  have hle : (⟨10, 2, 3, 6⟩ : Limits) ≤ .standard := by
    intro field
    cases field <;> decide
  have hc : Reachable ⟨10, 2, 3, 6⟩ { owner := 0, limits := ⟨10, 2, 3, 6⟩ } := .init 0
  have hd : Reachable .standard { owner := 1 } := .init 1
  let e : Stamped Evaluator := ⟨⟨0, 2⟩, "2d6!6-1d4r", ["2d6!6", "-1d4r"],
    [⟨⟨0, 0⟩, .pool { count := 2, faces := 6, modifier := some "!", argument := 6, maxDice := 3 }⟩,
      ⟨⟨0, 1⟩, .pool { count := 1, faces := 4, negative := true, modifier := some "r", argument := 1, maxDice := 3 }⟩]⟩
  have he : (Compiler.compile { owner := 0, limits := ⟨10, 2, 3, 6⟩ } (.text "2D6!6 - 1d4r")).1 = .ok e := by
    decide +kernel
  have hparts : (e.value.roll.run fiveDice 0).outcome = .ok [.dice [6, 3, 2], .dice [-4]] := by
    decide +kernel
  obtain ⟨e', he', hprogram, hroll⟩ := exists_compile_of_le hle hc hd he
  exact ⟨e, e', hle, he, he', hprogram, hparts, hroll Nat fiveDice 0 _ hparts⟩

end Compiler

end DiceNotation
