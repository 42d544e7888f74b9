import Mathlib.Data.List.Forall2
import DiceNotation.Proofs.Roll

/-!
# Rolls in step

Two rolls are followed here together, each one on a source of its own. They go in step if they ask for the same
dice whatever the sources answer, provided that the second one never answers lower than the first one; in the
end their results are compared. The rules go by the way in which rolls are put together, and a run of the first
roll that has all its calls answered is matched by a run of the second one.
-/

namespace DiceNotation

variable {σ τ α β γ δ : Type}

/-- From two states, both sources answer for dice with the given faces, one after the other, and the second one
never answers lower. -/
inductive Source.OutdoneBy (source : Source σ) (better : Source τ) : List Int → σ → τ → Prop where
  | nil {state : σ} {other : τ} : OutdoneBy source better [] state other
  | cons {faces value higher : Int} {calls : List Int} {state left : σ} {other after : τ} :
      source faces state = (.ok value, left) → better faces other = (.ok higher, after) → value ≤ higher →
      OutdoneBy source better calls left after → OutdoneBy source better (faces :: calls) state other

namespace Roll

/-- The rolls ask for the same dice as long as the second one is not answered lower than the first one. Neither
of them stops, and their results are `related`. -/
inductive InStep (related : α → β → Prop) : Roll α → Roll β → Prop where
  | done {a : α} {b : β} : related a b → InStep related (done a) (done b)
  | ask {faces : Int} {next : Int → Roll α} {further : Int → Roll β} :
      (∀ value higher, value ≤ higher → InStep related (next value) (further higher)) →
      InStep related (ask faces next) (ask faces further)

namespace InStep

variable {related : α → β → Prop}

theorem bind {mid : γ → δ → Prop} {first : Roll γ} {second : Roll δ} (h : InStep mid first second)
    {f : γ → Roll α} {g : δ → Roll β} (hnext : ∀ c d, mid c d → InStep related (f c) (g d)) :
    InStep related (first.bind f) (second.bind g) := by
  induction h with
  | done hmid => exact hnext _ _ hmid
  | ask _ ih => exact .ask ih

theorem map {mid : γ → δ → Prop} {first : Roll γ} {second : Roll δ} (h : InStep mid first second) {f : γ → α}
    {g : δ → β} (hrelated : ∀ c d, mid c d → related (f c) (g d)) :
    InStep related (first.bind fun c => .done (f c)) (second.bind fun d => .done (g d)) :=
  h.bind fun c d hmid => .done (hrelated c d hmid)

/-- A die that is answered no lower is no lower, whatever it is moved by. -/
theorem die (faces offset : Int) : InStep (· ≤ ·) (Roll.die faces offset) (Roll.die faces offset) :=
  .ask fun _ _ hle => .done (Int.add_le_add_right hle offset)

/-- Rolls for several items go in step if those for each of them do. -/
theorem mapEach {f : γ → Roll α} {g : γ → Roll β} (h : ∀ c, InStep related (f c) (g c)) (items : List γ) :
    InStep (List.Forall₂ related) (Roll.mapEach f items) (Roll.mapEach g items) := by
  induction items with
  | nil => exact .done .nil
  | cons c rest ih =>
    rw [mapEach_cons, mapEach_cons]
    refine (h c).bind ?_
    intro a b hab
    exact ih.map fun _ _ hrest => .cons hab hrest

/-- **Runs in step.** If the calls of a run of the first roll are all answered, and no lower for the second one,
both runs go well, with the same calls and with related results. -/
theorem run {first : Roll α} {second : Roll β} (h : InStep related first second) {source : Source σ}
    {better : Source τ} {state : σ} {other : τ}
    (hcalls : source.OutdoneBy better (first.run source state).calls state other) :
    ∃ a b, (first.run source state).outcome = .ok a ∧ (second.run better other).outcome = .ok b ∧
      (first.run source state).calls = (second.run better other).calls ∧ related a b := by
  induction h generalizing state other with
  | @done a b hab => exact ⟨a, b, rfl, rfl, rfl, hab⟩
  | @ask faces next further _ ih =>
    rw [run_ask] at hcalls ⊢
    rw [run_ask]
    rcases hanswer : source faces state with ⟨answer, left⟩
    rw [hanswer] at hcalls
    cases answer with
    | error failure =>
      -- the die that is not answered is among the calls
      cases hcalls with
      | cons hvalue => rw [hanswer] at hvalue; cases hvalue
    | ok value =>
      cases hcalls with
      | cons hvalue hhigher hle hrest =>
        obtain ⟨hok, rfl⟩ := Prod.mk.inj (hanswer.symm.trans hvalue)
        cases hok
        obtain ⟨a, b, ha, hb, hsame, hab⟩ := ih value _ hle hrest
        rw [hhigher]
        exact ⟨a, b, ha, hb, congrArg (faces :: ·) hsame, hab⟩

end InStep

end Roll

end DiceNotation
