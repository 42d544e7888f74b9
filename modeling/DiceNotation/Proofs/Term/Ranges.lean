import Mathlib.Algebra.Order.BigOperators.Group.List
import Mathlib.Algebra.Ring.Int.Defs
import DiceNotation.Proofs.Compiler.History
import DiceNotation.Proofs.Compiler.Joining
import DiceNotation.Proofs.Modifier.Picking
import DiceNotation.Proofs.Roll.InTurn
import DiceNotation.Proofs.Term.Budget

/-!
# What rolls come to

On a source whose dice show one of their faces, every die of a pool is between the ends of the pool, also
those that a modifier adds, and a minus swaps the ends. How many dice there are in the end is settled by
the modifier and by the dice of the pool before it. So a total is between two bounds that are known as
soon as the numbers of dice are.

This holds of every evaluator that a compiler ever gives, also where its limits were changed and terms
that were made under others are used again.
-/

namespace DiceNotation

variable {σ : Type} {source : Source σ} {state : σ}

/-! ## Sizes -/

/-- What a modifier may make of the size of a pool that has `count` dice, of which `matching` show the
argument, and that may grow to `limit` dice. -/
def Modifier.Resizes (m : Modifier) (count argument limit : Int) (matching : Nat) (size : Int) : Prop :=
  match m with
  | reroll => size = count
  | twice => size = count + matching
  | explode => count ≤ size ∧ size ≤ limit
  | keepHighest | keepLowest => size = min (max argument 0) count
  | dropHighest | dropLowest => size = count - min (max argument 0) count

theorem length_countTwice (face : Int) (rolls : List Int) :
    (countTwice face rolls).length = rolls.length + rolls.count face := by
  induction rolls with
  | nil => rfl
  | cons value rest ih =>
    have hcons : countTwice face (value :: rest) =
        (if value = face then [value, value] else [value]) ++ countTwice face rest := List.flatMap_cons
    rw [hcons, List.length_append, ih, List.length_cons, List.count_cons]
    by_cases h : value = face
    · rw [if_pos h, if_pos (beq_iff_eq.mpr h), List.length_cons, List.length_singleton]
      omega
    · rw [if_neg h, if_neg (by simpa using h), List.length_singleton]
      omega

/-- **Sizes.** A modifier makes of the size of a pool what is said of it, if all goes well. -/
theorem Modifier.apply_resizes (m : Modifier) {again : Roll Int} {faces : Int}
    (h : again.Gives (fun _ _ => True) [faces] fun _ => True) {argument limit : Int} {rolls : List Int}
    (hlimit : rolls.length ≤ limit) {values : List Int}
    (hok : ((m.apply argument limit again rolls).run source state).outcome = .ok values) :
    m.Resizes rolls.length argument limit (rolls.count argument) values.length := by
  cases m with
  | reroll =>
    -- here and for explosions it does not matter what the dice show, only that each of them is one die
    have hrolls : ∀ value ∈ rolls, True := fun _ _ => trivial
    obtain ⟨-, _, heq, hlength, -⟩ :=
      (rerollOnce_gives h argument hrolls).run_ok (fun _ _ _ _ _ => trivial) hok
    cases heq
    exact congrArg Nat.cast hlength
  | twice =>
    cases hok
    exact congrArg Nat.cast (length_countTwice argument rolls)
  | explode =>
    have hpool : ∀ d ∈ rolls.map fun value => PoolDie.mk value true, True := fun _ _ => trivial
    have hends := Explosion.settle_ends h argument limit (limit - rolls.length).toNat hpool
    obtain ⟨extra, hextra, -, hlength, -⟩ := hends.run_ok (fun _ _ _ _ _ => trivial) hok
    rw [List.length_map] at hlength
    constructor <;> omega
  | keepHighest =>
    cases hok
    exact length_take_toNat (perm_descending rolls) argument
  | keepLowest =>
    cases hok
    exact length_take_toNat (perm_ascending rolls) argument
  | dropHighest =>
    cases hok
    exact length_drop_toNat (perm_descending rolls) argument
  | dropLowest =>
    cases hok
    exact length_drop_toNat (perm_ascending rolls) argument

/-! ## Pools -/

namespace Pool

/-- The least value that a die of the pool may have in the end. -/
def least (p : Pool) : Int := if p.negative then -p.highest else p.lowest

/-- The greatest value that a die of the pool may have in the end. -/
def greatest (p : Pool) : Int := if p.negative then -p.lowest else p.highest

/-- The sizes to which a pool may come whose dice show `base` before the modifier. -/
def MayComeTo (p : Pool) (base : List Int) (size : Int) : Prop :=
  match p.modifier.bind Modifier.ofToken? with
  | none => size = p.count
  | some m => m.Resizes p.count p.argument p.maxDice (base.count p.argument) size

/-- Dice that show one of their faces are between the ends of the pool. -/
theorem isDie_iff {p : Pool} {value : Int} :
    p.IsDie (fun faces value => 1 ≤ value ∧ value ≤ faces) (if p.negative then -value else value) ↔
      p.least ≤ value ∧ value ≤ p.greatest := by
  unfold IsDie least greatest lowest highest
  cases p.negative with
  | false =>
    simp only [Bool.false_eq_true, if_false]
    omega
  | true =>
    simp only [if_true]
    omega

end Pool

/-- A term that is rolled in a state of a source comes to a part as it should: a constant to its value, a
pool to dice between its ends, as many as the modifier makes of the dice that it begins with. -/
inductive Term.RollsWithin (source : Source σ) : Term → σ → Part → Prop where
  | constant {value : Int} {state : σ} : RollsWithin source (.constant value) state (.scalar value)
  | pool {p : Pool} {state : σ} {base values : List Int} :
      ((p.die.times p.count.toNat).run source state).outcome = .ok base →
      p.MayComeTo base values.length →
      (∀ value ∈ values, p.least ≤ value ∧ value ≤ p.greatest) →
      RollsWithin source (.pool p) state (.dice values)

namespace Pool

variable {limits : Limits} {p : Pool}

/-- A pool begins with as many dice as it says. -/
theorem WellFormed.length_times (h : p.WellFormed limits) {base : List Int}
    (hbase : ((p.die.times p.count.toNat).run source state).outcome = .ok base) : (base.length : Int) = p.count := by
  have hdie : p.die.Gives (fun _ _ => True) [p.faces] fun _ => True :=
    Roll.die_gives (fun _ _ => True) p.faces p.offset
  obtain ⟨-, _, heq, hlength, -⟩ :=
    (Roll.times_gives hdie p.count.toNat).run_ok (fun _ _ _ _ _ => trivial) hbase
  cases heq
  rw [hlength, Int.toNat_of_nonneg h.countNonneg]

theorem WellFormed.mayComeTo (h : p.WellFormed limits) {base values : List Int}
    (hbase : ((p.die.times p.count.toNat).run source state).outcome = .ok base) {left : σ}
    (hok : ((modify p.modifier p.argument p.maxDice p.die base).run source left).outcome = .ok values) :
    p.MayComeTo base values.length := by
  have hdie : p.die.Gives (fun _ _ => True) [p.faces] fun _ => True :=
    Roll.die_gives (fun _ _ => True) p.faces p.offset
  have hcount := h.length_times hbase
  unfold MayComeTo
  cases hmodifier : p.modifier with
  | none =>
    rw [hmodifier] at hok
    cases hok
    exact hcount
  | some token =>
    obtain ⟨m, -, rfl⟩ := List.mem_map.mp (h.modifier token hmodifier)
    rw [hmodifier] at hok
    unfold modify at hok
    dsimp only at hok
    rw [Modifier.ofToken?_token] at hok
    rw [Option.bind_some, Modifier.ofToken?_token]
    -- explosions only ever start from a pool that the limit allows
    have hlimit : base.length ≤ p.maxDice := by
      rw [hcount, h.maxDice]
      exact h.countLe
    have hsize := m.apply_resizes hdie hlimit hok
    rwa [hcount] at hsize

/-- **A pool is rolled as it should be**, if all goes well. -/
theorem WellFormed.rollsWithin (h : p.WellFormed limits) (hsource : source.ShowsFaces) {part : Part}
    (hok : ((Term.pool p).roll.run source state).outcome = .ok part) :
    Term.RollsWithin source (.pool p) state part := by
  obtain ⟨values, hvalues, rfl⟩ := Roll.run_map_eq_ok hok
  have hrange : ∀ value ∈ values, p.least ≤ value ∧ value ≤ p.greatest := by
    obtain ⟨_, _, _, hgood⟩ := (Pool.roll_ends _ h.modifier).run_ok hsource hvalues
    exact fun value hvalue => isDie_iff.mp (hgood value hvalue)
  obtain ⟨unsigned, hunsigned, rfl⟩ := Roll.run_map_eq_ok hvalues
  obtain ⟨base, hbase, hmodified⟩ := Roll.run_bind_eq_ok hunsigned
  have hsize : (if p.negative then unsigned.map (-·) else unsigned).length = unsigned.length := by
    split
    · exact List.length_map _
    · rfl
  -- the minus comes last: it swaps the ends, and leaves the number of dice
  refine .pool hbase ?_ hrange
  rw [hsize]
  exact h.mayComeTo hbase hmodified

end Pool

theorem Term.WellFormed.rollsWithin {limits : Limits} {t : Term} (h : t.WellFormed limits)
    (hsource : source.ShowsFaces) {part : Part} (hok : (t.roll.run source state).outcome = .ok part) :
    t.RollsWithin source state part := by
  cases t with
  | constant value =>
    cases hok
    exact .constant
  | pool p => exact Pool.WellFormed.rollsWithin h hsource hok

/-! ## Totals -/

/-- The least number that a term may have in its part. -/
def Term.least : Term → Int
  | constant value => value
  | pool p => p.least

/-- The greatest number that a term may have in its part. -/
def Term.greatest : Term → Int
  | constant value => value
  | pool p => p.greatest

/-- What parts add up to if every number in the part of a term is `f` of the term. -/
def totalAt (f : Term → Int) (terms : List Term) (parts : List Part) : Int :=
  (List.zipWith (fun t part => (part.values.length : Int) * f t) terms parts).sum

theorem totalAt_cons (f : Term → Int) (t : Term) (terms : List Term) (part : Part) (parts : List Part) :
    totalAt f (t :: terms) (part :: parts) = part.values.length * f t + totalAt f terms parts := by
  rw [totalAt, List.zipWith_cons_cons, List.sum_cons]
  rfl

theorem Term.RollsWithin.bounds {t : Term} {part : Part} (h : t.RollsWithin source state part) :
    ∀ value ∈ part.values, t.least ≤ value ∧ value ≤ t.greatest := by
  cases h with
  | constant => simp [Part.values, Term.least, Term.greatest]
  | pool _ _ hrange => exact hrange

theorem total_cons (part : Part) (parts : List Part) : total (part :: parts) = part.values.sum + total parts := by
  rw [← List.singleton_append, total_append]
  show ([part].flatMap Part.values).sum + _ = _
  rw [List.flatMap_singleton]

theorem total_bounds {terms : List Term} {parts : List Part}
    (h : List.Forall₂ (fun t part => ∀ value ∈ part.values, t.least ≤ value ∧ value ≤ t.greatest) terms
      parts) :
    totalAt Term.least terms parts ≤ total parts ∧ total parts ≤ totalAt Term.greatest terms parts := by
  induction h with
  | nil => exact ⟨Int.le_refl 0, Int.le_refl 0⟩
  | @cons t part terms parts hbounds _ ih =>
    obtain ⟨hleast, hgreatest⟩ := ih
    have hlow := List.card_nsmul_le_sum part.values t.least fun value hvalue => (hbounds value hvalue).1
    have hhigh := List.sum_le_card_nsmul part.values t.greatest fun value hvalue => (hbounds value hvalue).2
    rw [Int.nsmul_eq_mul] at hlow hhigh
    rw [total_cons, totalAt_cons, totalAt_cons]
    exact ⟨Int.add_le_add hlow hleast, Int.add_le_add hhigh hgreatest⟩

/-! ## Compilers -/

namespace Compiler

/-- Every term of an evaluator is well-formed under the limits of some time. -/
theorem exists_wellFormed_of_compile {c : Compiler} (hchunks : c.chunks = []) (hexpressions : c.expressions = [])
    {requests : List Request} {given : Value} {e : Stamped Evaluator}
    (h : ((c.after requests).compile given).1 = .ok e) :
    ∀ t ∈ e.value.program.terms, ∃ before, before <+: requests ∧ t.WellFormed (c.after before).limits := by
  have hcompiled := forall₂_ofText_of_compile hchunks hexpressions h
  refine List.forall_mem_map.mpr (Roll.forall_mem_of_forall₂ (hcompiled.imp ?_))
  rintro chunk term ⟨before, hbefore, hterm⟩
  exact ⟨before, hbefore, Term.wellFormed_of_ofText hterm⟩

/--
**Range and size of every roll.**

Let a compiler have been asked for anything, changes of its limits included, and then give an evaluator.
Where it is rolled without an error, on a source whose dice show one of their faces, the parts are those
of its terms, rolled in turn: a constant gives its value, and a pool gives dice between its ends, as many
as the modifier makes of the dice that it begins with. So the total is between what the least and the
greatest values add up to. The limit on explosions is that of some time before the evaluator was given.
-/
theorem rollsWithin_of_compile {owner : Nat} {limits : Limits} {requests : List Request} {given : Value}
    {e : Stamped Evaluator}
    (h : ((after { owner := owner, limits := limits } requests).compile given).1 = .ok e)
    (hsource : source.ShowsFaces) {parts : List Part}
    (hparts : (e.value.roll.run source state).outcome = .ok parts) :
    Roll.InTurn source Term.roll (Term.RollsWithin source) e.value.program.terms state parts ∧
      totalAt Term.least e.value.program.terms parts ≤ total parts ∧
      total parts ≤ totalAt Term.greatest e.value.program.terms parts ∧
      ∀ p : Pool, .pool p ∈ e.value.program.terms → ∃ before, before <+: requests ∧
        p.maxDice = (after { owner := owner, limits := limits } before).limits.maxDice := by
  have hterms := exists_wellFormed_of_compile rfl rfl h
  have hturn : Roll.InTurn source Term.roll (Term.RollsWithin source) e.value.program.terms state parts := by
    refine Roll.inTurn_of_run_mapEach ?_ hparts
    intro t ht state part hpart
    obtain ⟨_, _, hwellFormed⟩ := hterms t ht
    exact hwellFormed.rollsWithin hsource hpart
  obtain ⟨hleast, hgreatest⟩ := total_bounds (hturn.forall₂ fun _ _ _ hwithin => hwithin.bounds)
  refine ⟨hturn, hleast, hgreatest, fun p hp => ?_⟩
  obtain ⟨before, hbefore, hwellFormed⟩ := hterms (.pool p) hp
  exact ⟨before, hbefore, hwellFormed.maxDice⟩

/-- All dice of a pool are counted twice, and two fudge dice with a minus are rolled again. The first pool
was compiled when more dice were allowed. -/
theorem rollsWithin_of_compile_fudge : ∃ e : Stamped Evaluator, ∃ parts : List Part,
    ((after { owner := 0, limits := { maxDice := 200 } } [.compileChunk "3d4t1", .setLimits .standard]).compile
        (.text "3d4t1 + 2 - 2dFr")).1 = .ok e ∧
      Source.firstFace.ShowsFaces ∧ (e.value.roll.run Source.firstFace ()).outcome = .ok parts ∧
      parts = [.dice [1, 1, 1, 1, 1, 1], .scalar 2, .dice [1, 1]] ∧
      totalAt Term.least e.value.program.terms parts = 6 ∧ 6 ≤ total parts ∧ total parts ≤ 28 ∧
      totalAt Term.greatest e.value.program.terms parts = 28 := by
  let e : Stamped Evaluator := ⟨⟨0, 3⟩, "3d4t1+2-2dfr", ["3d4t1", "+2", "-2dfr"],
    [⟨⟨0, 0⟩, .pool { count := 3, faces := 4, modifier := some "t", argument := 1, maxDice := 200 }⟩,
      ⟨⟨0, 1⟩, .constant 2⟩,
      ⟨⟨0, 2⟩, .pool { count := 2, faces := 3, offset := -2, negative := true, modifier := some "r", argument := -1 }⟩]⟩
  let parts : List Part := [.dice [1, 1, 1, 1, 1, 1], .scalar 2, .dice [1, 1]]
  have he : ((after { owner := 0, limits := { maxDice := 200 } } [.compileChunk "3d4t1", .setLimits .standard]).compile
      (.text "3d4t1 + 2 - 2dFr")).1 = .ok e := by
    decide +kernel
  have hparts : (e.value.roll.run Source.firstFace ()).outcome = .ok parts := by
    decide +kernel
  have hlow : totalAt Term.least e.value.program.terms parts = 6 := by
    decide +kernel
  have hhigh : totalAt Term.greatest e.value.program.terms parts = 28 := by
    decide +kernel
  obtain ⟨-, hleast, hgreatest, -⟩ := rollsWithin_of_compile he Source.firstFace_showsFaces hparts
  rw [hlow] at hleast
  rw [hhigh] at hgreatest
  exact ⟨e, parts, he, Source.firstFace_showsFaces, hparts, rfl, hlow, hleast, hgreatest, hhigh⟩

end Compiler

end DiceNotation
