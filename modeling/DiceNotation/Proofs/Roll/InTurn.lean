import DiceNotation.Proofs.Roll.Endings

/-!
# Rolls that go well

A run that goes well is taken apart here. A roll in two steps goes well if both steps do, the second one
in the state that the first one has left. So rolls for several items are made in turn, and what is true
of each one by itself is true of all of them, each in the state in which it begins.
-/

namespace DiceNotation.Roll

variable {α β σ : Type} {source : Source σ} {state : σ}

theorem run_bind_eq_ok {r : Roll α} {f : α → Roll β} {b : β}
    (h : ((r.bind f).run source state).outcome = .ok b) :
    ∃ a, (r.run source state).outcome = .ok a ∧
      ((f a).run source (r.run source state).state).outcome = .ok b := by
  rw [run_bind] at h
  rcases hr : r.run source state with ⟨outcome, calls, left⟩
  rw [hr] at h
  cases outcome with
  | error e => cases h
  | ok a => exact ⟨a, rfl, h⟩

/-- A roll whose result is changed goes well if the roll does. -/
theorem run_map_eq_ok {r : Roll α} {f : α → β} {b : β}
    (h : ((r.bind fun a => .done (f a)).run source state).outcome = .ok b) :
    ∃ a, (r.run source state).outcome = .ok a ∧ f a = b := by
  obtain ⟨a, ha, hdone⟩ := run_bind_eq_ok h
  exact ⟨a, ha, Except.ok.inj hdone⟩

/-- A run that goes well, on a source that answers as dice may show, is one of the ways in which the roll
ends. -/
theorem Ends.run_ok {shows : Int → Int → Prop} {r : Roll α} {post : List Int → Except RollError α → Prop}
    (h : r.Ends shows post)
    (hsource : ∀ faces state value left, source faces state = (.ok value, left) → shows faces value)
    {a : α} (hok : (r.run source state).outcome = .ok a) : post (r.run source state).calls (.ok a) := by
  induction r generalizing post state with
  | done b =>
    cases hok
    exact h
  | stop e => cases hok
  | ask faces next ih =>
    rw [run_ask] at hok ⊢
    rcases hanswer : source faces state with ⟨answer, left⟩
    rw [hanswer] at hok
    cases answer with
    | error failure => cases hok
    | ok value =>
      -- the answer is one of those along which the roll was followed
      exact ih value (h value (hsource _ _ _ _ hanswer)) hok

/-! ## One item after the other -/

/-- The results are those of rolls for the items, made in turn from a state of the source. `holds` is true
of every item, with the state in which its roll begins and the result to which it comes. -/
inductive InTurn (source : Source σ) (f : α → Roll β) (holds : α → σ → β → Prop) :
    List α → σ → List β → Prop where
  | nil {state : σ} : InTurn source f holds [] state []
  | cons {a : α} {b : β} {items : List α} {results : List β} {state : σ} :
      ((f a).run source state).outcome = .ok b → holds a state b →
      InTurn source f holds items ((f a).run source state).state results →
      InTurn source f holds (a :: items) state (b :: results)

/-- **Rolls for several items are made in turn**, if all goes well. -/
theorem inTurn_of_run_mapEach {f : α → Roll β} {holds : α → σ → β → Prop} {items : List α}
    (hitem : ∀ a ∈ items, ∀ state b, ((f a).run source state).outcome = .ok b → holds a state b)
    {results : List β} (hok : ((mapEach f items).run source state).outcome = .ok results) :
    InTurn source f holds items state results := by
  induction items generalizing state results with
  | nil =>
    cases hok
    exact .nil
  | cons a rest ih =>
    rw [mapEach_cons] at hok
    obtain ⟨b, hb, hrest⟩ := run_bind_eq_ok hok
    obtain ⟨bs, hbs, rfl⟩ := run_map_eq_ok hrest
    have htail := ih (fun other hother => hitem other (List.mem_cons_of_mem a hother)) hbs
    exact .cons hb (hitem a List.mem_cons_self state b hb) htail

theorem InTurn.forall₂ {f : α → Roll β} {holds : α → σ → β → Prop} {items : List α} {results : List β}
    (h : InTurn source f holds items state results) {good : α → β → Prop}
    (hgood : ∀ a state b, holds a state b → good a b) : List.Forall₂ good items results := by
  induction h with
  | nil => exact .nil
  | cons _ hholds _ ih => exact .cons (hgood _ _ _ hholds) ih

end DiceNotation.Roll
