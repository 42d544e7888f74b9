import DiceNotation.Proofs.Roll.InTurn

/-!
# How dice fall

Some rolls ask for nothing but dice of one kind. Such a roll is followed here die by die: what is claimed of it
is a condition on the values of its dice, in the order in which they fall, and on its outcome. On any source it
throws dice for which the condition holds, and asks for nothing else; only a source that fails can end it
otherwise.
-/

namespace DiceNotation

variable {σ α β : Type} {faces offset : Int}

/-- From one state to another a source throws dice with the given faces, and these, moved by `offset`, show the
values in order. -/
inductive Source.Throws (source : Source σ) (faces offset : Int) : σ → List Int → σ → Prop where
  | nil {state : σ} : Throws source faces offset state [] state
  | cons {state next left : σ} {value : Int} {dice : List Int} : source faces state = (.ok value, next) →
      Throws source faces offset next dice left →
      Throws source faces offset state ((value + offset) :: dice) left

namespace Roll

/-- The roll asks for dice with the given faces only, and however they fall `post` holds of the values that they
show and of the outcome. -/
def Falls (faces offset : Int) : Roll α → (List Int → Except RollError α → Prop) → Prop
  | done a, post => post [] (.ok a)
  | stop e, post => post [] (.error e)
  | ask asked next, post => asked = faces ∧ ∀ value,
      (next value).Falls faces offset fun dice outcome => post ((value + offset) :: dice) outcome

/-! ## Putting rolls together -/

theorem Falls.imp {r : Roll α} {post weaker : List Int → Except RollError α → Prop}
    (h : r.Falls faces offset post) (himp : ∀ dice outcome, post dice outcome → weaker dice outcome) :
    r.Falls faces offset weaker := by
  induction r generalizing post weaker with
  | done a => exact himp [] _ h
  | stop e => exact himp [] _ h
  | ask asked next ih =>
    obtain ⟨hasked, hnext⟩ := h
    exact ⟨hasked, fun value => ih value (hnext value) fun dice outcome => himp _ outcome⟩

theorem Falls.bind {r : Roll α} {f : α → Roll β} {mid : List Int → Except RollError α → Prop}
    {post : List Int → Except RollError β → Prop} (h : r.Falls faces offset mid)
    (hstop : ∀ dice e, mid dice (.error e) → post dice (.error e))
    (hnext : ∀ dice a, mid dice (.ok a) →
      (f a).Falls faces offset fun more outcome => post (dice ++ more) outcome) :
    (r.bind f).Falls faces offset post := by
  induction r generalizing mid post with
  | done a => exact hnext [] a h
  | stop e => exact hstop [] e h
  | ask asked next ih =>
    obtain ⟨hasked, hfalls⟩ := h
    exact ⟨hasked, fun value =>
      ih value (hfalls value) (fun dice e => hstop _ e) fun dice a => hnext _ a⟩

/-- However the dice fall, the roll comes to a result that is good with their values. -/
def FallsTo (faces offset : Int) (r : Roll α) (good : List Int → α → Prop) : Prop :=
  r.Falls faces offset fun dice outcome => ∃ a, outcome = .ok a ∧ good dice a

theorem FallsTo.done {a : α} {good : List Int → α → Prop} (h : good [] a) :
    (done a).FallsTo faces offset good :=
  ⟨a, rfl, h⟩

/-- A first step that always goes well is followed by the second one. -/
theorem FallsTo.bind_falls {r : Roll α} {f : α → Roll β} {good : List Int → α → Prop}
    {post : List Int → Except RollError β → Prop} (h : r.FallsTo faces offset good)
    (hnext : ∀ dice a, good dice a →
      (f a).Falls faces offset fun more outcome => post (dice ++ more) outcome) :
    (r.bind f).Falls faces offset post := by
  refine Falls.bind h ?_ ?_
  · rintro dice e ⟨_, ⟨⟩, _⟩
  · rintro dice a ⟨_, ⟨⟩, hgood⟩
    exact hnext dice a hgood

theorem FallsTo.bind {r : Roll α} {f : α → Roll β} {good : List Int → α → Prop} {fine : List Int → β → Prop}
    (h : r.FallsTo faces offset good)
    (hnext : ∀ dice a, good dice a → (f a).FallsTo faces offset fun more => fine (dice ++ more)) :
    (r.bind f).FallsTo faces offset fine :=
  h.bind_falls hnext

theorem FallsTo.map {r : Roll α} {f : α → β} {good : List Int → α → Prop} {fine : List Int → β → Prop}
    (h : r.FallsTo faces offset good) (hf : ∀ dice a, good dice a → fine dice (f a)) :
    (r.bind fun a => .done (f a)).FallsTo faces offset fine := by
  refine h.bind fun dice a hgood => .done ?_
  rw [List.append_nil]
  exact hf dice a hgood

/-! ## Dice -/

/-- One die shows its value. -/
theorem die_falls (faces offset : Int) : (die faces offset).FallsTo faces offset fun dice value => dice = [value] :=
  ⟨rfl, fun value => ⟨value + offset, rfl, rfl⟩⟩

/-- Several dice show their values in order. -/
theorem times_falls (faces offset : Int) (n : Nat) :
    ((die faces offset).times n).FallsTo faces offset fun dice values => dice = values ∧ values.length = n := by
  have hitems : ∀ items : List Nat, (mapEach (fun _ => die faces offset) items).FallsTo faces offset
      fun dice values => dice = values ∧ values.length = items.length := by
    intro items
    induction items with
    | nil => exact .done ⟨rfl, rfl⟩
    | cons _ rest ih =>
      rw [mapEach_cons]
      refine (die_falls faces offset).bind fun dice value hdice => ih.map fun more values hmore => ?_
      obtain ⟨rfl, hlength⟩ := hmore
      subst hdice
      exact ⟨rfl, congrArg (· + 1) hlength⟩
  have hall := hitems (List.range n)
  rwa [List.length_range] at hall

/-! ## Runs -/

/-- **Runs throw dice as they fall.** Unless the source fails, a run throws dice for which the condition holds,
and has asked for these and no others. -/
theorem Falls.run {r : Roll α} {post : List Int → Except RollError α → Prop} (h : r.Falls faces offset post)
    (source : Source σ) (state : σ) :
    (∃ dice outcome left, r.run source state = ⟨outcome, List.replicate dice.length faces, left⟩ ∧
      source.Throws faces offset state dice left ∧ post dice outcome) ∨
    ∃ failure calls left, r.run source state = ⟨.error (.source failure), calls, left⟩ := by
  induction r generalizing post state with
  | done a => exact Or.inl ⟨[], _, state, rfl, .nil, h⟩
  | stop e => exact Or.inl ⟨[], _, state, rfl, .nil, h⟩
  | ask asked next ih =>
    obtain ⟨rfl, hnext⟩ := h
    rw [run_ask]
    rcases hanswer : source asked state with ⟨answer, after⟩
    cases answer with
    | error failure => exact Or.inr ⟨failure, _, _, rfl⟩
    | ok value =>
      dsimp only
      rcases ih value (hnext value) after with
        ⟨dice, outcome, left, hrun, hthrows, hpost⟩ | ⟨failure, calls, left, hrun⟩
      · refine Or.inl ⟨_, outcome, left, ?_, .cons hanswer hthrows, hpost⟩
        rw [hrun]
        rfl
      · rw [hrun]
        exact Or.inr ⟨failure, _, left, rfl⟩

theorem FallsTo.run {r : Roll α} {good : List Int → α → Prop} (h : r.FallsTo faces offset good)
    (source : Source σ) (state : σ) :
    (∃ dice a left, r.run source state = ⟨.ok a, List.replicate dice.length faces, left⟩ ∧
      source.Throws faces offset state dice left ∧ good dice a) ∨
    ∃ failure calls left, r.run source state = ⟨.error (.source failure), calls, left⟩ := by
  rcases Falls.run h source state with ⟨dice, _, left, hrun, hthrows, a, rfl, hgood⟩ | hfailed
  · exact Or.inl ⟨dice, a, left, hrun, hthrows, hgood⟩
  · exact Or.inr hfailed

end Roll

end DiceNotation
