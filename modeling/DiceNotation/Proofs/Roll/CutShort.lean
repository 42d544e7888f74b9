import Mathlib.Data.List.Forall2
import DiceNotation.Proofs.Explosion.Settling
import DiceNotation.Term

/-!
# Rolls that stop earlier

A roll may be another one that stops earlier: until then both ask for the same dice, whatever these show,
and where the one does not stop the other comes to the same result. So a run of it that goes well is a run
of the other. Explosions under a limit are those under a larger limit, cut short in this sense, and so
are pools that differ in nothing but their limit.
-/

namespace DiceNotation

namespace Roll

variable {α β σ : Type}

/-- The first roll is the second one, cut short where it stops. -/
inductive IsCutOf : Roll α → Roll α → Prop where
  | done (a : α) : IsCutOf (done a) (done a)
  | stop (e : RollError) (whole : Roll α) : IsCutOf (stop e) whole
  | ask {faces : Int} {next further : Int → Roll α} :
      (∀ value, (next value).IsCutOf (further value)) → IsCutOf (ask faces next) (ask faces further)

namespace IsCutOf

theorem refl (r : Roll α) : r.IsCutOf r := by
  induction r with
  | done a => exact .done a
  | stop e => exact .stop e _
  | ask faces next ih => exact .ask ih

theorem bind {cut whole : Roll α} (h : cut.IsCutOf whole) {f g : α → Roll β}
    (hnext : ∀ a, (f a).IsCutOf (g a)) : (cut.bind f).IsCutOf (whole.bind g) := by
  induction h with
  | done a => exact hnext a
  | stop e whole => exact .stop e _
  | ask _ ih => exact .ask ih

theorem map {cut whole : Roll α} (h : cut.IsCutOf whole) (f : α → β) :
    (cut.bind fun a => .done (f a)).IsCutOf (whole.bind fun a => .done (f a)) :=
  h.bind fun a => .done (f a)

/-- Rolls for several items are cut short where one of them is. -/
theorem mapEach {γ : Type} {f : α → Roll γ} {g : β → Roll γ} {items : List α} {others : List β}
    (h : List.Forall₂ (fun a b => (f a).IsCutOf (g b)) items others) :
    (Roll.mapEach f items).IsCutOf (Roll.mapEach g others) := by
  induction h with
  | nil => exact refl _
  | cons hfirst _ ih =>
    rw [mapEach_cons, mapEach_cons]
    exact hfirst.bind fun b => ih.map (b :: ·)

/-- **Runs that go well are not cut short.** They are runs of the whole roll, from the first call to the
state that is left. -/
theorem run_eq {cut whole : Roll α} (h : cut.IsCutOf whole) (source : Source σ) {state : σ} {a : α}
    (hok : (cut.run source state).outcome = .ok a) : whole.run source state = cut.run source state := by
  induction h generalizing state with
  | done b => rfl
  | stop e whole => cases hok
  | @ask faces next further _ ih =>
    rw [run_ask] at hok
    rw [run_ask, run_ask]
    rcases hanswer : source faces state with ⟨answer, left⟩
    rw [hanswer] at hok
    cases answer with
    | error failure => cases hok
    | ok value =>
      dsimp only at hok ⊢
      rw [ih value hok]

end IsCutOf

end Roll

/-! ## Explosions -/

/-- Explosions with less room are those with more, cut short. -/
theorem Explosion.settle_isCutOf (face limit more : Int) (again : Roll Int) {room larger : Nat}
    (hroom : room ≤ larger) (pool : List PoolDie) :
    (settle face limit again room pool).IsCutOf (settle face more again larger pool) := by
  induction room using Nat.strongRecOn generalizing larger pool with
  | ind room ih =>
    by_cases hzero : pending face pool = 0
    · rw [settle_of_pending_eq_zero hzero, settle_of_pending_eq_zero hzero]
      exact .done _
    · by_cases hfits : pending face pool ≤ room
      · rw [settle_of_fits hzero hfits, settle_of_fits hzero (Nat.le_trans hfits hroom)]
        refine (Roll.IsCutOf.refl _).bind fun next => ?_
        exact ih (room - pending face pool) (by omega) (by omega) next
      · rw [settle_of_exceeds hzero hfits]
        exact .stop _ _

theorem explode_isCutOf (face : Int) {limit more : Int} (h : limit ≤ more) (again : Roll Int)
    (rolls : List Int) : (explode face limit again rolls).IsCutOf (explode face more again rolls) :=
  Explosion.settle_isCutOf face limit more again (by omega) _

/-! ## Terms -/

theorem modify_isCutOf (token : Option String) (argument : Int) {limit more : Int} (h : limit ≤ more)
    (again : Roll Int) (rolls : List Int) :
    (modify token argument limit again rolls).IsCutOf (modify token argument more again rolls) := by
  unfold modify
  cases token with
  | none => exact .done rolls
  | some token =>
    dsimp only
    cases Modifier.ofToken? token with
    | none => exact .stop _ _
    | some m =>
      -- only explosions look at the limit
      cases m with
      | explode => exact explode_isCutOf argument h again rolls
      | reroll | twice | keepHighest | keepLowest | dropHighest | dropLowest => exact .refl _

/-- The pool, exploding up to another limit. -/
def Pool.withLimit (limit : Int) (p : Pool) : Pool := { p with maxDice := limit }

/-- The term, exploding up to another limit. -/
def Term.withLimit (limit : Int) : Term → Term
  | constant value => .constant value
  | pool p => .pool (p.withLimit limit)

theorem Pool.roll_isCutOf {p : Pool} {limit : Int} (h : p.maxDice ≤ limit) :
    p.roll.IsCutOf (p.withLimit limit).roll := by
  have hunsigned : p.rollUnsigned.IsCutOf (p.withLimit limit).rollUnsigned :=
    (Roll.IsCutOf.refl _).bind fun base => modify_isCutOf p.modifier p.argument h p.die base
  exact hunsigned.map _

/-- The limit of a term is at most the given one. -/
def Term.LimitedTo (limit : Int) : Term → Prop
  | constant _ => True
  | pool p => p.maxDice ≤ limit

theorem Term.roll_isCutOf {t : Term} {limit : Int} (h : t.LimitedTo limit) :
    t.roll.IsCutOf (t.withLimit limit).roll := by
  cases t with
  | constant value => exact .done _
  | pool p => exact (Pool.roll_isCutOf h).map _

theorem rollTerms_isCutOf {terms : List Term} {limit : Int} (h : ∀ t ∈ terms, t.LimitedTo limit) :
    (rollTerms terms).IsCutOf (rollTerms (terms.map (Term.withLimit limit))) := by
  refine Roll.IsCutOf.mapEach (List.forall₂_map_right_iff.mpr (List.forall₂_same.mpr ?_))
  exact fun t ht => Term.roll_isCutOf (h t ht)

end DiceNotation
