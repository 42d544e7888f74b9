import DiceNotation.Proofs.Chunk.Signs
import DiceNotation.Proofs.Modifier.Raising
import DiceNotation.Proofs.Roll.InStep
import DiceNotation.Proofs.Term.Ranges
import DiceNotation.Proofs.Term.Signs

/-!
# Better dice

An expression whose modifiers are all keeps and drops asks for the same dice whatever these show. Where one
source answers no lower than another one at any call, what its chunks without a minus add up to is no less, and
what its chunks with a minus add up to is no more, since they count against it. Which dice are kept may well
differ.
-/

namespace DiceNotation

/-- The first number is no more than the second one, or no less where both count against a total. -/
def NoBetter : Bool → Int → Int → Prop
  | false, x, y => x ≤ y
  | true, x, y => y ≤ x

theorem NoBetter.refl (minus : Bool) (x : Int) : NoBetter minus x x := by
  cases minus <;> exact Int.le_refl x

theorem NoBetter.add {minus : Bool} {x y z w : Int} (h : NoBetter minus x y) (h' : NoBetter minus z w) :
    NoBetter minus (x + z) (y + w) := by
  cases minus <;> exact Int.add_le_add h h'

/-! ## Pools -/

/-- The pool has no modifier, or a keep or a drop. -/
def Pool.PicksNoFace (p : Pool) : Prop :=
  ∀ token, p.modifier = some token → ∃ m : Modifier, m.token = token ∧ m.picksFace = false

namespace Pool

variable {p : Pool}

theorem PicksNoFace.modify_inStep (h : p.PicksNoFace) {rolls higher : List Int}
    (hrolls : List.Forall₂ (· ≤ ·) rolls higher) :
    Roll.InStep (List.Forall₂ (· ≤ ·)) (modify p.modifier p.argument p.maxDice p.die rolls)
      (modify p.modifier p.argument p.maxDice p.die higher) := by
  cases hmodifier : p.modifier with
  | none => exact .done hrolls
  | some token =>
    obtain ⟨m, rfl, hm⟩ := h token hmodifier
    rw [Modifier.modify_token hm, Modifier.modify_token hm]
    exact .done (m.forall₂_picked _ hrolls)

theorem PicksNoFace.rollUnsigned_inStep (h : p.PicksNoFace) :
    Roll.InStep (List.Forall₂ (· ≤ ·)) p.rollUnsigned p.rollUnsigned := by
  have hdie : Roll.InStep (· ≤ ·) p.die p.die := .die p.faces p.offset
  have hdice : Roll.InStep (List.Forall₂ (· ≤ ·)) (p.die.times p.count.toNat) (p.die.times p.count.toNat) :=
    .mapEach (fun _ => hdie) _
  refine hdice.bind ?_
  intro rolls higher hrolls
  exact h.modify_inStep hrolls

/-- **Better dice of a pool** add up to no less, or with a minus to no more. -/
theorem PicksNoFace.roll_inStep (h : p.PicksNoFace) :
    Roll.InStep (fun values others => NoBetter p.negative values.sum others.sum) p.roll p.roll := by
  rw [roll_eq]
  refine h.rollUnsigned_inStep.map ?_
  intro values others hvalues
  have hsum : values.sum ≤ others.sum := hvalues.sum_le_sum
  cases p.negative with
  | false => exact hsum
  | true =>
    show (others.map (-·)).sum ≤ (values.map (-·)).sum
    rw [← List.sum_neg, ← List.sum_neg]
    exact Int.neg_le_neg hsum

end Pool

/-! ## Chunks -/

/-- The chunk is a constant, or a pool without a modifier or with a keep or a drop. -/
def Chunk.picksNoFace : Chunk → Bool
  | constant _ _ => true
  | pool t => t.modifier.all fun m => !m.modifier.picksFace

/-- Whether a text begins with a minus. -/
def startsWithMinus (text : String) : Bool := text.toList.head? == some '-'

theorem Chunk.startsWithMinus_eq {text : String} {c : Chunk} (h : ofText? text = some c) :
    startsWithMinus text = (c.sign == .minus) := by
  rw [Bool.eq_iff_iff, startsWithMinus, beq_iff_eq, beq_iff_eq, sign_eq_minus_iff h]

/-- A pool compiles to one with the same sign and the same modifier. -/
theorem Term.exists_pool_of_ofText {limits : Limits} {text : String} {t : PoolText} {term : Term}
    (hread : Chunk.ofText? text = some (.pool t)) (h : Term.ofText limits text = .ok term) :
    ∃ p : Pool, term = .pool p ∧ p.negative = (t.sign == .minus) ∧
      p.modifier = t.modifier.map (·.modifier.token) := by
  rw [ofText_of_not_constant limits (by simp [hread])] at h
  obtain ⟨p, hp, hterm⟩ := bind_eq_ok h
  have hcomes := Pool.ofText_comesTo limits (Chunk.ofText?_lowercase hread)
  rw [hp] at hcomes
  cases hcomes with
  | made => exact ⟨_, (Except.ok.inj hterm).symm, rfl, rfl⟩

/-- The parts of a chunk for better dice add up to no less, or with a minus to no more. -/
theorem Term.roll_inStep {limits : Limits} {text : String} {c : Chunk} {term : Term}
    (hread : Chunk.ofText? text = some c) (h : Term.ofText limits text = .ok term) (hpicks : c.picksNoFace = true) :
    Roll.InStep (fun part other => NoBetter (startsWithMinus text) part.values.sum other.values.sum)
      term.roll term.roll := by
  cases c with
  | constant s digits =>
    rw [ofText_of_constant limits hread] at h
    obtain ⟨size, -, hterm⟩ := bind_eq_ok h
    cases hterm
    exact .done (NoBetter.refl _ _)
  | pool t =>
    obtain ⟨p, rfl, hnegative, hmodifier⟩ := Term.exists_pool_of_ofText hread h
    have hpool : p.PicksNoFace := by
      intro token htoken
      rw [hmodifier] at htoken
      obtain ⟨m, hm, rfl⟩ := Option.map_eq_some_iff.mp htoken
      have hpick : (!m.modifier.picksFace) = true := (Option.all_eq_true _ _).mp hpicks m hm
      exact ⟨m.modifier, rfl, by simpa using hpick⟩
    have hminus : startsWithMinus text = p.negative := (Chunk.startsWithMinus_eq hread).trans hnegative.symm
    rw [hminus]
    exact hpool.roll_inStep.map fun _ _ hsum => hsum

/-! ## Expressions -/

/-- The total of the parts whose chunks begin with a minus, or of those whose chunks do not. -/
def signedTotal (minus : Bool) (chunks : List String) (parts : List Part) : Int :=
  total (((chunks.zip parts).filter fun pair => startsWithMinus pair.1 == minus).map (·.2))

theorem signedTotal_cons (minus : Bool) (chunk : String) (chunks : List String) (part : Part) (parts : List Part) :
    signedTotal minus (chunk :: chunks) (part :: parts) =
      (if startsWithMinus chunk = minus then part.values.sum else 0) + signedTotal minus chunks parts := by
  unfold signedTotal
  rw [List.zip_cons_cons, List.filter_cons]
  by_cases h : startsWithMinus chunk = minus
  · rw [if_pos (beq_iff_eq.mpr h), if_pos h, List.map_cons, total_cons]
  · rw [if_neg (by simpa using h), if_neg h, Int.zero_add]

/-- Terms that go in step, each by the sign of its chunk, are in step as a whole. -/
theorem rollTerms_inStep {chunks : List String} {terms : List Term}
    (h : List.Forall₂ (fun chunk term => Roll.InStep
      (fun part other => NoBetter (startsWithMinus chunk) part.values.sum other.values.sum) term.roll term.roll)
      chunks terms) :
    Roll.InStep (fun parts others => ∀ minus,
      NoBetter minus (signedTotal minus chunks parts) (signedTotal minus chunks others))
      (rollTerms terms) (rollTerms terms) := by
  unfold rollTerms
  induction h with
  | nil => exact .done fun minus => NoBetter.refl minus 0
  | @cons chunk term chunks terms hterm _ ih =>
    rw [Roll.mapEach_cons]
    refine hterm.bind ?_
    intro part other hpart
    refine ih.map ?_
    intro parts others hparts minus
    rw [signedTotal_cons, signedTotal_cons]
    refine NoBetter.add ?_ (hparts minus)
    -- the first chunk counts in one of the totals only
    by_cases hminus : startsWithMinus chunk = minus
    · rw [if_pos hminus, if_pos hminus, ← hminus]
      exact hpart
    · rw [if_neg hminus, if_neg hminus]
      exact NoBetter.refl minus 0

/-- Streams of which one is nowhere higher than the other. -/
theorem Source.streaming_outdoneBy {stream better : Nat → Int} (h : ∀ n, stream n ≤ better n) (calls : List Int)
    (drawn : Nat) : (Source.streaming stream 0).OutdoneBy (Source.streaming better 0) calls drawn drawn := by
  induction calls generalizing drawn with
  | nil => exact .nil
  | cons faces calls ih =>
    have hdie : stream drawn - 0 ≤ better drawn - 0 := Int.sub_le_sub_right (h drawn) 0
    exact .cons rfl rfl hdie (ih (drawn + 1))

namespace Compiler

/-- An evaluator whose chunks pick no face rolls in step with itself. -/
theorem roll_inStep_of_compile {owner : Nat} {limits : Limits} {requests : List Request} {given : Value}
    {e : Stamped Evaluator}
    (h : ((after { owner := owner, limits := limits } requests).compile given).1 = .ok e)
    (hpicks : ∀ chunk ∈ e.value.chunks, (Chunk.ofText? chunk).any Chunk.picksNoFace = true) :
    Roll.InStep (fun parts others => ∀ minus,
      NoBetter minus (signedTotal minus e.value.chunks parts) (signedTotal minus e.value.chunks others))
      e.value.roll e.value.roll := by
  have hboth := (List.forall₂_and_left _ _).mpr ⟨hpicks, forall₂_ofText_of_compile rfl rfl h⟩
  refine rollTerms_inStep (List.forall₂_map_right_iff.mpr (hboth.imp ?_))
  intro chunk term hchunk
  obtain ⟨hchunk, before, -, hterm⟩ := hchunk
  obtain ⟨c, hread, hc⟩ := (Option.any_eq_true _ _).mp hchunk
  exact Term.roll_inStep hread hterm hc

/--
**Better dice never make it worse.**

Where no die of a pool is lower than the one in its place in another one, no die that a keep or a drop leaves,
whatever its number is, is lower than the one in its place there. So let a compiler have been asked for anything
and then give an evaluator whose chunks are constants and pools with no other modifiers than these; and let two
sources answer the calls of a roll, the second one never lower than the first one. Then both come to a result,
with the same calls. What the chunks without a minus add up to is on the second source at least what it is on the
first one, and what those with a minus add up to is at most that.
-/
theorem totals_of_better_dice :
    (∀ (k : Int) (rolls higher : List Int), List.Forall₂ (· ≤ ·) rolls higher →
      List.Forall₂ (· ≤ ·) (keepHighest k rolls) (keepHighest k higher) ∧
      List.Forall₂ (· ≤ ·) (keepLowest k rolls) (keepLowest k higher) ∧
      List.Forall₂ (· ≤ ·) (dropHighest k rolls) (dropHighest k higher) ∧
      List.Forall₂ (· ≤ ·) (dropLowest k rolls) (dropLowest k higher)) ∧
    ∀ (owner : Nat) (limits : Limits) (requests : List Request) (given : Value) (e : Stamped Evaluator),
      ((after { owner := owner, limits := limits } requests).compile given).1 = .ok e →
      (∀ chunk ∈ e.value.chunks, (Chunk.ofText? chunk).any Chunk.picksNoFace = true) →
      ∀ (σ τ : Type) (source : Source σ) (better : Source τ) (state : σ) (other : τ),
        source.OutdoneBy better (e.value.roll.run source state).calls state other →
        ∃ parts others, (e.value.roll.run source state).outcome = .ok parts ∧
          (e.value.roll.run better other).outcome = .ok others ∧
          (e.value.roll.run source state).calls = (e.value.roll.run better other).calls ∧
          signedTotal false e.value.chunks parts ≤ signedTotal false e.value.chunks others ∧
          signedTotal true e.value.chunks others ≤ signedTotal true e.value.chunks parts := by
  constructor
  · intro k rolls higher h
    exact ⟨Modifier.forall₂_picked .keepHighest k.toNat h, Modifier.forall₂_picked .keepLowest k.toNat h,
      Modifier.forall₂_picked .dropHighest k.toNat h, Modifier.forall₂_picked .dropLowest k.toNat h⟩
  · intro owner limits requests given e he hpicks σ τ source better state other hcalls
    obtain ⟨parts, others, hparts, hothers, hsame, htotals⟩ := (roll_inStep_of_compile he hpicks).run hcalls
    exact ⟨parts, others, hparts, hothers, hsame, htotals false, htotals true⟩

/-- With a higher first die another two of three dice are kept, and the two dice that count against them are as
they were. -/
theorem totals_of_better_dice_reordered :
    let low : Source Nat := Source.streaming (fun n => n % 4 + 1) 0
    let high : Source Nat := Source.streaming (fun n => if n = 0 then 6 else n % 4 + 1) 0
    ∃ (e : Stamped Evaluator) (parts others : List Part),
      (Compiler.compile { owner := 0 } (.text "3d6kh2 - 2d4dl1 + 1")).1 = .ok e ∧
        (∀ chunk ∈ e.value.chunks, (Chunk.ofText? chunk).any Chunk.picksNoFace = true) ∧
        low.OutdoneBy high (e.value.roll.run low 0).calls 0 0 ∧
        (e.value.roll.run low 0).outcome = .ok parts ∧ (e.value.roll.run high 0).outcome = .ok others ∧
        (e.value.roll.run low 0).calls = (e.value.roll.run high 0).calls ∧
        signedTotal false e.value.chunks parts ≤ signedTotal false e.value.chunks others ∧
        signedTotal true e.value.chunks others ≤ signedTotal true e.value.chunks parts := by
  intro low high
  let e : Stamped Evaluator := ⟨⟨0, 3⟩, "3d6kh2-2d4dl1+1", ["3d6kh2", "-2d4dl1", "+1"],
    [⟨⟨0, 0⟩, .pool { count := 3, faces := 6, modifier := some "kh", argument := 2 }⟩,
      ⟨⟨0, 1⟩, .pool { count := 2, faces := 4, negative := true, modifier := some "dl", argument := 1 }⟩,
      ⟨⟨0, 2⟩, .constant 1⟩]⟩
  have he : (Compiler.compile { owner := 0 } (.text "3d6kh2 - 2d4dl1 + 1")).1 = .ok e := by decide +kernel
  have hpicks : ∀ chunk ∈ e.value.chunks, (Chunk.ofText? chunk).any Chunk.picksNoFace = true := by decide +kernel
  have hcalls : low.OutdoneBy high (e.value.roll.run low 0).calls 0 0 := by
    refine Source.streaming_outdoneBy (fun n => ?_) _ 0
    split <;> omega
  obtain ⟨parts, others, htotals⟩ :=
    totals_of_better_dice.2 0 .standard [] (.text "3d6kh2 - 2d4dl1 + 1") e he hpicks Nat Nat low high 0 0 hcalls
  exact ⟨e, parts, others, he, hpicks, hcalls, htotals⟩

end Compiler

end DiceNotation
